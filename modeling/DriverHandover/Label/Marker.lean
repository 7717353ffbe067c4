import DriverHandover.Text.Blank

/-!
# Paused label values

A deploy label is paused by rewriting its value so that the node selector of its pods stops
matching, in a way that the value itself tells what it was. So a node can be restored from its
labels alone, also after the process that paused them has died.

| value      | paused                              |
|------------|-------------------------------------|
| empty      | empty: disabled by the user         |
| `false`    | `false`: disabled by the user       |
| `true`     | the bare marker                     |
| otherwise  | the value, a separator, the marker  |

## Main definitions

* `Marker.strip` – a text without the markers in it.
* `pause`, `resume` – the paused form of a value and the value of a paused form.
-/

namespace DriverHandover

namespace Marker

/-- The text that marks a paused value. -/
def text : String := "paused-for-driver-upgrade"

/-- The characters of the marker. -/
def chars : List Char := text.toList

/-- The character between a value and the marker. -/
def separator : Char := '_'

/-- A text without one separator at its start. -/
def dropSeparator : List Char → List Char
  | [] => []
  | c :: rest => if c = separator then rest else c :: rest

theorem dropSeparator_length_le (s : List Char) : (dropSeparator s).length ≤ s.length := by
  cases s with
  | nil => simp [dropSeparator]
  | cons c rest => simp only [dropSeparator]; split <;> simp

/-- A text without its markers, from left to right, each taken out together with one separator
after it. -/
def strip (s : List Char) : List Char :=
  match s with
  | [] => []
  | c :: rest =>
    if chars.isPrefixOf (c :: rest) then strip (dropSeparator (rest.drop (chars.length - 1)))
    else c :: strip rest
termination_by s.length
decreasing_by
  · have h := dropSeparator_length_le (rest.drop (chars.length - 1))
    simp only [List.length_drop, List.length_cons] at h ⊢
    omega
  · simp

/-- Whether a value holds the marker. -/
def marks (value : String) : Bool :=
  Text.occurs chars value.toList

end Marker

/-- The paused form of a label value. A value that holds the marker already is its own paused
form, and so are the two values by which a user disables a component. -/
def pause (value : String) : String :=
  if value = "" ∨ value = "false" then value
  else if value = "true" then Marker.text
  else if Marker.marks value then value
  else value ++ String.singleton Marker.separator ++ Marker.text

/-- The value that a label had before it was paused. -/
def resume (value : String) : String :=
  if value = "false" then value
  else if value = Marker.text then "true"
  else String.ofList (Text.trimEnds (· == Marker.separator) (Marker.strip value.toList))

end DriverHandover
