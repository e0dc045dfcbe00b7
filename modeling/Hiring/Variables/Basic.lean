/-!
# Variables of the environment

* `Variables` — names and values; the first value of a name counts.
* `Variables.value?` — the value of a name.
* `Variables.text` — what a reference to a name stands for.
-/

namespace Hiring

/-- Names with their values. -/
abbrev Variables := List (String × String)

namespace Variables

/-- The value of a name. -/
def value? (vars : Variables) (name : String) : Option String := vars.lookup name

/-- What a reference to a name stands for: its value, or nothing. -/
def text (vars : Variables) (name : String) : String := (vars.value? name).getD ""

/-- The first value of a name counts. -/
theorem value?_append_of_eq_some {vars : Variables} {name value : String} (more : Variables)
    (h : vars.value? name = some value) : (vars ++ more).value? name = some value := by
  unfold value? at *
  rw [List.lookup_append, h, Option.some_or]

end Variables

end Hiring
