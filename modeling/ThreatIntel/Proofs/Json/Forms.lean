import ThreatIntel.Json.Codec
import ThreatIntel.Proofs.Lists

/-!
# Reading structures

What it takes for a structure to be read from an object: each of its members is stated at most once,
and each is read from what is stated under its name.
-/

namespace ThreatIntel

namespace Slot

/-- What an object states under a name that it states once. -/
theorem eq_given_of_ofName?
    {members : List (String × Json)}
    {name : String}
    {value : Json}
    {slot : Slot}
    (found : Members.get? name members = some value)
    (stated : ofName? (Document.ofMembers members) name = some slot) :
    slot = .given (.ofJson value) := by
  have first : ∃ others, (Document.ofMembers members).filter (·.1 == some name) =
      (some name, Document.ofJson value) :: others := by
    clear stated
    induction members with
    | nil => cases found
    | cons member rest inductionHypothesis =>
        obtain ⟨key, other⟩ := member
        rw [Members.get?_cons] at found
        rw [Document.ofMembers]
        split at found
        · next same =>
            cases found
            subst same
            exact ⟨_, List.filter_cons_of_pos (by simp)⟩
        · next different =>
            rw [List.filter_cons_of_neg (by simpa using fun same => different same.symm)]
            exact inductionHypothesis found
  obtain ⟨others, filtered⟩ := first
  rw [ofName?, filtered] at stated
  cases others with
  | nil =>
      cases stated
      rfl
  | cons other others => cases stated

end Slot

namespace Form

variable
  {ρ α β : Type}

/-- The form takes one slot for each of its names, whatever slots follow. -/
class Sized (form : Form ρ α) : Prop where
  /-- What follows is left over. -/
  read?_append (slots rest : List Slot) :
    slots.length = form.names.length →
      form.read? (slots ++ rest) = (form.read? slots).map fun read => (read.1, rest)

instance (value : α) : Sized (build value : Form ρ α) where
  read?_append slots rest length := by
    obtain rfl := List.length_eq_zero_iff.mp length
    rfl

instance
    (form : Form ρ (β → α))
    [sized : Sized form]
    (name : String)
    (get : ρ → β)
    (entry : Entry β) :
    Sized (form.field name get entry) where
  read?_append slots rest length := by
    obtain ⟨front, last, rfl⟩ : ∃ front last, slots = front ++ [last] := by
      rcases slots.eq_nil_or_concat with rfl | ⟨front, last, rfl⟩
      · simp [Form.field] at length
      · exact ⟨front, last, List.concat_eq_append⟩
    have frontLength : front.length = form.names.length := by
      simpa [Form.field] using length
    simp only [Form.field, List.append_assoc, sized.read?_append front _ frontLength]
    cases form.read? front with
    | none => rfl
    | some read => cases readLast : entry.read? last <;> simp [readLast]

/-- What the form reads from members, each found under its name. -/
def named? (form : Form ρ α) (members : List (Option String × Document)) : Option α := do
  let slots ← form.names.mapM (Slot.ofName? members)
  let (value, _) ← form.read? slots
  pure value

@[simp] theorem named?_build
    (value : α)
    (members : List (Option String × Document)) :
    (build value : Form ρ α).named? members = some value := rfl

/-- The last member of a form is read from what is found under its name. -/
@[simp] theorem named?_field
    (form : Form ρ (β → α))
    [sized : form.Sized]
    (name : String)
    (get : ρ → β)
    (entry : Entry β)
    (members : List (Option String × Document)) :
    (form.field name get entry).named? members =
      (form.named? members).bind fun make =>
        (Slot.ofName? members name).bind fun slot => (entry.read? slot).map make := by
  simp only [named?, Form.field, List.mapM_append]
  cases found : form.names.mapM (Slot.ofName? members) with
  | none => rfl
  | some front =>
      cases last : Slot.ofName? members name with
      | none => cases form.read? front <;> simp [last]
      | some slot =>
          have read := sized.read?_append front [slot] (length_of_mapM found)
          cases made : form.read? front with
          | none => simp [last, read, made]
          | some made => cases readLast : entry.read? slot <;> simp [last, read, made, readLast]

/-- A structure is read from what an object states under the names of its members. -/
theorem read?_codec_object
    (form : Form ρ ρ)
    (members : List (String × Json)) :
    form.codec.read? (.ofJson (.object members)) = form.named? (Document.ofMembers members) := by
  have named : (Document.ofMembers members).all (·.1.isSome) = true := by simp
  simp only [codec, named?, Document.ofJson, Slot.ofDocument?, named, if_true]

end Form
end ThreatIntel
