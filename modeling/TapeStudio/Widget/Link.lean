import TapeStudio.Widget.Options

/-! A label that opens a page when it is clicked and changes colour under the mouse. -/
namespace TapeStudio

structure Link where
  url : Value
  normal : Value
  hover : Value
  options : Options

inductive LinkEvent where
  | configured (caption : Value) (changes : Options)
  | browsed (url : Value)

namespace Link

def urlOption : Text := "url".toList
def normalOption : Text := "normalcolor".toList
def hoverOption : Text := "hovercolor".toList
def cursorOption : Text := "cursor".toList
def foregroundOption : Text := "foreground".toList
def captionOption : Text := "text".toList

/-- The shape of the mouse over a link, by the windowing system. -/
def handCursor (windowing : Text) : String :=
  if windowing = "aqua".toList then "pointinghand" else "hand2"

def configure (link : Link) (changes : Options) : Link × List LinkEvent :=
  ({ link with options := link.options.update changes },
    [.configured ((link.options.lookup captionOption).getD .null) changes])

/-- A link with the options given; some of them have a default. -/
def make (windowing : Text) (given : Options) : Link × List LinkEvent :=
  let pick (name : Text) (fallback : String) := (given.lookup name).getD (.ofString fallback)
  let normal := pick normalOption "#007fff"
  let link : Link :=
    { url := pick urlOption "https://"
      normal := normal
      hover := pick hoverOption "#005ddd"
      options := (foregroundOption, normal) ::
        given.without [urlOption, normalOption, hoverOption] }
  link.configure [(cursorOption, pick cursorOption (handCursor windowing))]

def enter (link : Link) : Link × List LinkEvent :=
  link.configure [(foregroundOption, link.hover)]

def leave (link : Link) : Link × List LinkEvent :=
  link.configure [(foregroundOption, link.normal)]

def click (link : Link) : Link × List LinkEvent :=
  let (link, events) := link.leave
  (link, events ++ [.browsed link.url])

/-- What a link does on an event of the mouse. -/
def respond (link : Link) (event : Text) : Link × List LinkEvent :=
  if event = "<Enter>".toList then link.enter
  else if event = "<Leave>".toList then link.leave
  else if event = "<Button-1>".toList then link.click
  else (link, [])

def foreground (link : Link) : Value := (link.options.lookup foregroundOption).getD .null

end Link

end TapeStudio
