import ChatWidget.Client.Conversation
/-!
Making a client. Its site follows from where the script and the page are and who is talking, each as it
was given or else as the settings have it; without an identity, or with a script that is not this
widget's, there is no client and nothing outside is touched.
-/
namespace ChatWidget

structure Activation where
  scriptSrc : Json := .null
  pageUrl : Json := .null
  identity : Json := .null
  boot : Bool := true

namespace Client

variable {μ : Type} [StorageArea μ]

def siteFor (settings : Settings) (activation : Activation) : Except Fault (Option Site) :=
  Site.discover (activation.scriptSrc.orElse (.str settings.scriptSrc))
    (activation.pageUrl.orElse (.str settings.pageUrl))
    (activation.identity.orElse (Json.ofOption settings.identity))

def open_ (settings : Settings) (site : Site) (widget : Widget) : Op (Surroundings μ) Client := do
  let store ← Op.within Surroundings.medium (fun medium around => { around with medium := medium })
    (Store.openOn (some settings.storageKey))
  pure { site, settings, widget, store, transport := { site } }

/-- Make a client for a document, if there is a site for it. -/
def activate (settings : Settings) (activation : Activation) (document : Document)
    (elements : Elements Listener) : Op (Surroundings μ) (Option Client) := do
  match siteFor settings activation with
  | .error (.unknownScript scriptSrc) => do
    Op.note (.scriptNotRecognised scriptSrc)
    pure none
  | .error fault => Op.fail fault
  | .ok none => do
    Op.note .identityMissing
    pure none
  | .ok (some site) => do
    let client ← open_ settings site (Widget.create document elements)
    Op.note (.activated site.identity site.service client.store.durable)
    if activation.boot then
      let ((), client) ← client.perform boot
      pure (some client)
    else pure (some client)

end Client

end ChatWidget
