import ChatCommands.Fault.Basic
import ChatCommands.Host
import ChatCommands.Run

/-!
# Faults on the console

Operators see a fault as a panel: the title names the program, the code and the kind of fault, and
the body holds the message and a hint.  A fault may ask for plain colours or for no frame.

## Main definitions

* `Fault.styles` : the styles of the parts.
* `Fault.panel` : the fault as it is shown.
-/

namespace ChatCommands

namespace Fault

/-- The styles of the parts, unless the host sets others. -/
def styles : Entries :=
  [("prog-name", .text "bold #E6E6F0"), ("code", .text "bold #00E5FF"),
    ("error-title", .text "bold #FF4DA6"), ("error-message", .text "#C8C8D0"),
    ("hint-arrow", .text "#9CE19C dim"), ("hint", .text "italic #9CE19C")]

/-- A value as styled text: nothing for a false value, and styled text as it is. -/
def fragment (style : String) (v : Value) : StyledText :=
  if v.isTruthy then
    match v with
    | .styled t => t
    | v => StyledText.ofString v.plain style
  else ⟨"", "", []⟩

/-- A text without a style. -/
def bare (s : String) : StyledText :=
  StyledText.ofString s ""

/-- The code as it is shown; no code is shown as a question mark. -/
def codeLabel (h : Host) (code : Value) : Except Misuse Value :=
  if code.isTruthy then
    match code with
    | .code c => .ok (.text (h.label c))
    | v => .error (.noAttribute v.typeName "normalize")
  else .ok (.text "?")

/-- The fault as it is shown on a console. -/
def panel (h : Host) (f : Fault) : Except Misuse Display := do
  let all := styles.union h.styles
  let colorful := ((f.option? "colorful").getD (.bool true)).isTruthy
  let style (name : String) : String :=
    let chosen := (all.lookup name).getD (.text "")
    if colorful && chosen.isTruthy then chosen.plain else ""
  let label ← codeLabel h ((f.option? "code").getD .null)
  let title := Text.title ((f.option? "title").getD (.text "fault")).plain
  let header := StyledText.assemble
    [bare "[ ", fragment (style "prog-name") (h.program.getD (.text "helmsman")), bare " - ",
      fragment (style "code") label, bare " | ", fragment (style "error-title") (.text title),
      bare " ]"]
  let message := fragment (style "error-message") f.messageValue
  let hint := StyledText.assemble
    [fragment (style "hint-arrow") (.text " → "),
      fragment (style "hint") ((f.option? "hint").getD .null)]
  if ((f.option? "fancy").getD (.bool true)).isTruthy then return .panel header [message, hint]
  else return .group [header, message, hint]

end Fault

end ChatCommands
