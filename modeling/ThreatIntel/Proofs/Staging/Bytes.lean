import ThreatIntel.Proofs.Json.Objects
import ThreatIntel.Proofs.Json.Ordered
import ThreatIntel.Proofs.Text.Base64
import ThreatIntel.Staging

/-!
# Members that hold bytes

Texts that hold bytes are checked and sent on as they are. Main statement: the data of an item are
sent if they are an object and each of the texts is written in base 64, blanks around it aside; each
of these texts then stands in its member without the blanks, and all other members stay as they
were.
-/

namespace ThreatIntel
namespace Staging

/-- A text without the blanks around it. -/
def trimmed (text : String) : String :=
  String.ofList (Text.trim text.toList)

/-- A text is written in base 64, blanks around it aside. -/
def InBase64 (text : String) : Prop :=
  ∃ bytes, Text.Base64.Denotes (Text.trim text.toList) bytes

/-! ## One text -/

/-- The bytes of a text are those that it states without the blanks around it. -/
theorem decodeBinary_eq_ok_iff
    {label text : String}
    {bytes : List UInt8} :
    decodeBinary label text = .ok bytes ↔
      Text.Base64.Denotes (Text.trim text.toList) bytes := by
  rw [← Text.Base64.decode?_eq_some_iff, decodeBinary]
  cases Text.Base64.decode? (Text.trim text.toList) <;> simp

/-- A text that is written in base 64 is the one that is written again for its bytes. -/
theorem trimmed_eq_encode
    {text : String}
    {bytes : List UInt8}
    (denotes : Text.Base64.Denotes (Text.trim text.toList) bytes) :
    trimmed text = String.ofList (Text.Base64.encode bytes) := by
  rw [trimmed, Text.Base64.denotes_iff.mp denotes]

/-- Any other text is refused. -/
theorem decodeBinary_of_not_inBase64
    {text : String}
    (other : ¬InBase64 text)
    (label : String) :
    decodeBinary label text = .error
      (Error.validation s!"Binary staging data for '{label}' is not valid base64").withCause := by
  unfold decodeBinary
  cases decoded : Text.Base64.decode? (Text.trim text.toList) with
  | none => rfl
  | some bytes => exact absurd ⟨bytes, Text.Base64.decode?_eq_some_iff.mp decoded⟩ other

/-! ## All texts of an item -/

/-- Members with the texts that hold bytes in their places. -/
def withTexts (members : List (String × Json)) (binary : List (String × String)) :
    List (String × Json) :=
  (binary.map fun entry => (entry.1, Json.text (trimmed entry.2))).foldl
    (fun members pair => Members.insert pair.1 pair.2 members) members

/-- Texts that are written in base 64 are put into their members. -/
theorem setBinary_of_inBase64
    {binary : List (String × String)}
    (written : ∀ entry ∈ binary, InBase64 entry.2)
    (members : List (String × Json)) :
    setBinary members binary = .ok (withTexts members binary) := by
  induction binary generalizing members with
  | nil => rfl
  | cons entry binary inductionHypothesis =>
      obtain ⟨label, text⟩ := entry
      obtain ⟨⟨bytes, denotes⟩, others⟩ := List.forall_mem_cons.mp written
      have decoded : decodeBinary label text = .ok bytes := decodeBinary_eq_ok_iff.mpr denotes
      rw [setBinary, decoded]
      change setBinary (Members.insert label (.text (String.ofList _)) members) binary = _
      rw [← trimmed_eq_encode denotes, inductionHypothesis others]
      rfl

/-- One text that is not written in base 64 is enough for a refusal. -/
theorem exists_refusal_of_setBinary
    {binary : List (String × String)}
    (other : ¬∀ entry ∈ binary, InBase64 entry.2)
    (members : List (String × Json)) :
    ∃ error, setBinary members binary = .error error ∧ error.kind = .validation := by
  induction binary generalizing members with
  | nil => exact absurd nofun other
  | cons entry binary inductionHypothesis =>
      obtain ⟨label, text⟩ := entry
      rw [setBinary]
      by_cases written : InBase64 text
      · obtain ⟨bytes, denotes⟩ := written
        rw [decodeBinary_eq_ok_iff.mpr denotes]
        apply inductionHypothesis
        exact fun others => other (List.forall_mem_cons.mpr ⟨⟨bytes, denotes⟩, others⟩)
      · rw [decodeBinary_of_not_inBase64 written]
        exact ⟨_, rfl, rfl⟩

/-! ## The data of an item -/

/-- What is sent for an item: its own data, with each text that holds bytes in its member. -/
def Item.Sends (item : Item) (body : Json) : Prop :=
  ∃ members after, item.data = .object members ∧ body = .object after ∧
    (∀ key, Members.get? key after =
      ((Members.get? key (Members.ofList item.binary)).map fun text => .text (trimmed text)).or
        (Members.get? key members)) ∧
    (Members.Ordered members → Members.Ordered after)

theorem Item.sends_withTexts
    {item : Item}
    {members : List (String × Json)}
    (stated : item.data = .object members) :
    item.Sends (.object (withTexts members item.binary)) := by
  refine ⟨members, _, stated, rfl, ?_, Members.ordered_foldl_insert⟩
  intro key
  rw [withTexts, Members.get?_foldl_insert,
    Members.get?_ofList_map (fun text => Json.text (trimmed text))]

/-- An item whose data are an object, and whose texts are all written in base 64, can be sent; any
other is refused. -/
theorem Item.body_cases_of_texts (item : Item) :
    ((∃ members, item.data = .object members) ∧ (∀ entry ∈ item.binary, InBase64 entry.2) ∧
      ∃ body, item.body = .ok body ∧ item.Sends body) ∨
    (¬((∃ members, item.data = .object members) ∧ ∀ entry ∈ item.binary, InBase64 entry.2) ∧
      ∃ error, item.body = .error error ∧ error.kind = .validation) := by
  cases stated : item.data with
  | object members =>
      by_cases written : ∀ entry ∈ item.binary, InBase64 entry.2
      · refine .inl ⟨⟨members, rfl⟩, written, _, ?_, sends_withTexts stated⟩
        rw [body, stated]
        simp only [setBinary_of_inBase64 written]
        rfl
      · obtain ⟨error, refused, kind⟩ := exists_refusal_of_setBinary written members
        refine .inr ⟨fun both => written both.2, error, ?_, kind⟩
        rw [body, stated]
        simp only [refused]
        rfl
  | null | boolean _ | number _ | text _ | array _ =>
      refine .inr ⟨by simp,
        .validation s!"Stage data for {item.resource.name} must be a JSON object", ?_, rfl⟩
      rw [body, stated]

/-- What is sent for an item that can be sent, and how any other is refused. -/
structure Item.Checked (item : Item) : Prop where
  /-- The data are sent if they are an object and all texts that hold bytes are in base 64. -/
  accepted : (∃ body, item.body = .ok body) ↔
    (∃ members, item.data = .object members) ∧ ∀ entry ∈ item.binary, InBase64 entry.2
  /-- What is sent are the data, with these texts in their members. -/
  sent : ∀ body, item.body = .ok body → item.Sends body
  /-- A refusal is one of the input. -/
  refused : ∀ error, item.body = .error error → error.kind = .validation

theorem Item.checked (item : Item) : item.Checked := by
  rcases item.body_cases_of_texts with
    ⟨object, written, body, sent, sends⟩ | ⟨other, error, refused, kind⟩
  · refine ⟨⟨fun _ => ⟨object, written⟩, fun _ => ⟨body, sent⟩⟩, ?_, ?_⟩
    · rintro _ same
      cases sent.symm.trans same
      exact sends
    · rintro _ same
      cases sent.symm.trans same
  · refine ⟨⟨?_, fun both => absurd both other⟩, ?_, ?_⟩
    · rintro ⟨_, same⟩
      cases refused.symm.trans same
    · rintro _ same
      cases refused.symm.trans same
    · rintro _ same
      cases refused.symm.trans same
      exact kind

/-- Every item is checked before it is sent. Bytes are read from the one text that states them and
from no other, blanks aside; this is the text that is written for them, and texts that differ
otherwise state different bytes. -/
theorem binary_checked_and_sent :
    (∀ item : Item, item.Checked) ∧
    (∀ bytes : List UInt8, Text.Base64.Denotes (Text.Base64.encode bytes) bytes ∧
      ∀ label, decodeBinary label (String.ofList (Text.Base64.encode bytes)) = .ok bytes) ∧
    ∀ (label text : String) (bytes : List UInt8), decodeBinary label text = .ok bytes →
      trimmed text = String.ofList (Text.Base64.encode bytes) ∧
      ∀ label' text', decodeBinary label' text' = .ok bytes → trimmed text = trimmed text' := by
  refine ⟨Item.checked, ?_, ?_⟩
  · intro bytes
    have denotes := Text.Base64.denotes_encode bytes
    refine ⟨denotes, fun label => decodeBinary_eq_ok_iff.mpr ?_⟩
    rw [String.toList_ofList, Text.Base64.trim_encode]
    exact denotes
  · intro label text bytes decoded
    have first := trimmed_eq_encode (decodeBinary_eq_ok_iff.mp decoded)
    refine ⟨first, fun label' text' decodedToo => ?_⟩
    rw [first, trimmed_eq_encode (decodeBinary_eq_ok_iff.mp decodedToo)]

theorem binary_checked_and_sent_of_blanks :
    let item : Item := ⟨.artifact, .object [("caseId", .whole 1), ("fileData", .null)],
      [("fileData", "\taGVsbG8=\n")]⟩
    decodeBinary "fileData" "\taGVsbG8=\n" = .ok [104, 101, 108, 108, 111] ∧
      (∃ body, item.body = .ok body ∧ item.Sends body) ∧ trimmed "\taGVsbG8=\n" = "aGVsbG8=" := by
  intro item
  obtain ⟨checked, -, read⟩ := binary_checked_and_sent
  have decoded : decodeBinary "fileData" "\taGVsbG8=\n" = .ok [104, 101, 108, 108, 111] :=
    decodeBinary_eq_ok_iff.mpr (Text.Base64.decode?_eq_some_iff.mp (by decide +kernel))
  have written : ∀ entry ∈ item.binary, InBase64 entry.2 := by
    intro entry member
    rw [List.mem_singleton.mp member]
    exact ⟨_, decodeBinary_eq_ok_iff.mp decoded⟩
  obtain ⟨body, sent⟩ := (checked item).accepted.mpr ⟨⟨_, rfl⟩, written⟩
  refine ⟨decoded, ⟨body, sent, (checked item).sent body sent⟩, ?_⟩
  rw [(read _ _ _ decoded).1]
  decide +kernel

end Staging
end ThreatIntel
