import ChatWidget.Markup.Escape
import ChatWidget.Markup.Fragment
/-!
The fragments of markup that the widget puts on a page: a bubble for each message, which is also what the
history keeps of it, a bubble without text where an answer is awaited, and the links to the stylesheets.
-/
namespace ChatWidget

namespace Bubble

def messageClass : String := "pws-cb-message"

def userClass : String := "pws-cb-user"

def botClass : String := "pws-cb-bot"

def pendingClass : String := "pws-cb-bot-pending"

/-- A bubble with a text, for someone with a class of their own. -/
def withText (speaker text : String) : String :=
  "<div class=\"" ++ messageClass ++ " " ++ speaker ++ "\"><span>" ++ text.escaped ++ "</span></div>"

def user (text : String) : String := withText userClass text

def bot (text : String) : String := withText botClass text

def placeholder : Markup.Node := ⟨"div", [], [messageClass, botClass, pendingClass], "", []⟩

end Bubble

namespace Stylesheet

def chosenId : String := "pws-cb-style"

def baseId : String := "pws-cb-base-style"

def link (id address : String) : String :=
  "<link id=\"" ++ id ++ "\" rel=\"stylesheet\" type=\"text/css\" href=\"" ++ address ++ "\"/>"

def chosenAddress (root style : String) : String := root ++ "css/responsio-" ++ style ++ ".css"

def baseAddress (root : String) : String := root ++ "css/responsio-base-styles.css"

end Stylesheet

end ChatWidget
