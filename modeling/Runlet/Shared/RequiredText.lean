import Runlet.Library.Text

/-!
# Required texts

The validators that the schemas of the control plane share: a required text is stripped and not
empty, and an optional one that is blank counts as absent.
-/

namespace Runlet

/-- A text that was stripped and is not empty. -/
structure RequiredText where
  text : String
  stripped : Text.strip text = text
  nonempty : text ≠ ""

/-- `_validate_required_text`. -/
def validateRequiredText (value : String) : Except String RequiredText :=
  if h : Text.strip value = "" then .error "value must not be empty"
  else .ok ⟨Text.strip value, Text.strip_strip value, h⟩

/-- A required text passes its own check. -/
@[simp] theorem validateRequiredText_text (required : RequiredText) :
    validateRequiredText required.text = .ok required := by
  obtain ⟨text, hstripped, hnonempty⟩ := required
  unfold validateRequiredText
  rw [dif_neg (by rwa [hstripped])]
  simp only [hstripped]

/-- `_normalize_optional_text`. -/
def normalizeOptionalText : Option String → Option RequiredText
  | none => none
  | some value =>
    if h : Text.strip value = "" then none
    else some ⟨Text.strip value, Text.strip_strip value, h⟩

end Runlet
