import ChatWidget.Net.Url
/-!
Finding the service. The widget's script lies at a fixed place below the root of its site, so the
script's own address, joined with that of the page, tells the root, and the service lies below the root.
-/
namespace ChatWidget

/-- Where the site and its service are, and who is talking. -/
structure Site where
  root : String
  service : String
  identity : Json

namespace Site

def addressOf : Json → Except Fault (List Char)
  | .str text => .ok text.toList
  | .arr _ | .obj _ => .error .wrongType
  | value => .error (if value.isTruthy then .missingOperation else .wrongType)

/-- The address of the script, given how the page names it and the address of the page. -/
def scriptAddress (scriptSrc pageUrl : Json) : Except Fault (List Char) :=
  if !pageUrl.isTruthy then addressOf scriptSrc
  else if !scriptSrc.isTruthy then addressOf pageUrl
  else match pageUrl, scriptSrc with
    | .str page, .str script => UrlParts.join page.toList script.toList
    | .str _, _ | _, .str _ => .error .wrongType
    | _, _ => .error .missingOperation

def serviceFolder : String := "responsio/"

/-- The root of the site whose script has the given address, if it is this widget's script. -/
def rootOf (script : UrlParts) : Option (List Char) :=
  let name := Fault.scriptName.toList
  if Text.endsWith script.path name then
    let path := script.path.take (script.path.length - name.length) ++ ['/']
    some { script with path := path, query := [], fragment := [] : UrlParts }.text
  else none

/-- The site of a script on a page, for someone with an identity; without an identity there is none. -/
def discover (scriptSrc pageUrl identity : Json) : Except Fault (Option Site) := do
  if !identity.isTruthy then return none
  let script ← UrlParts.split [] (← scriptAddress scriptSrc pageUrl)
  match rootOf script with
  | none => throw (.unknownScript scriptSrc)
  | some root =>
    let root := String.ofList root
    return some ⟨root, root ++ serviceFolder, identity⟩

end Site

end ChatWidget
