import Mathlib.Data.String.Basic
import ThreatIntel.Proofs.Lists
import ThreatIntel.Staging

/-!
# Folders of stage files

A stage file holds a list of items or one item, and no document can be taken for both. Main
statements: a file is loaded as the items that it states, and a folder as those of all its stage
files in the order of their names, in whatever order the folder is listed; one file that states no
items leaves none.
-/

namespace ThreatIntel
namespace Staging

/-! ## Documents -/

/-- What the document of a stage file states: a list of items, each in its place, or one item. -/
inductive States : Document → List Item → Prop
  | many
      {documents : List Document}
      {items : List Item}
      (each : List.Forall₂ (fun document item => Item.codec.read? document = some item)
        documents items) :
      States (.array documents) items
  | one
      {document : Document}
      {item : Item}
      (reads : Item.codec.read? document = some item) :
      States document [item]

/-- A list is read item by item. -/
theorem read?_list_eq_some_iff
    {codec : Codec α}
    {document : Document}
    {items : List α} :
    (Codec.list codec).read? document = some items ↔ ∃ documents, document = .array documents ∧
      List.Forall₂ (fun document item => codec.read? document = some item) documents items := by
  cases document with
  | array documents =>
      simp only [← mapM_eq_some_iff, Document.array.injEq, exists_eq_left']
      rfl
  | null | boolean _ | number _ | text _ | object _ | unreadable => simp [Codec.list]

namespace Item

/-- An item is read from one slot for each of its members. -/
theorem read?_form (kind data binary : Slot) :
    form.read? [kind, data, binary] =
      ((Entry.required resourceCodec).read? kind).bind fun resource =>
        ((Entry.required .json).read? data).bind fun data =>
          ((Entry.defaulted (.dictionary .text) []).read? binary).map fun binary =>
            (⟨resource, data, binary⟩, []) := by
  cases readKind : (Entry.required resourceCodec).read? kind with
  | none => simp [form, Form.field, Form.build, readKind]
  | some resource =>
      cases readData : (Entry.required .json).read? data <;>
        simp [form, Form.field, Form.build, readKind, readData]

/-- An item may be written as a list of its members in their order. -/
theorem read?_array (kind data binary : Document) :
    codec.read? (.array [kind, data, binary]) =
      codec.read? (.object [(some "type", kind), (some "data", data), (some "binary", binary)]) :=
  rfl

/-- The last member may be left out of the list. -/
theorem read?_array_of_two (kind data : Document) :
    codec.read? (.array [kind, data]) =
      codec.read? (.object [(some "type", kind), (some "data", data)]) := by
  change (form.read? [.given kind, .given data, .beyond]).bind _ =
    (form.read? [.given kind, .given data, .unnamed]).bind _
  rw [read?_form, read?_form]
  rfl

/-- A list that does not begin with a kind of record is no item. -/
theorem read?_array_of_refused
    {first : Document}
    (refused : resourceCodec.read? first = none)
    (rest : List Document) :
    codec.read? (.array (first :: rest)) = none := by
  have unread (data binary : Slot) : form.read? [.given first, data, binary] = none := by
    rw [read?_form, Entry.required]
    simp [refused]
  rcases rest with _ | ⟨second, _ | ⟨third, _ | ⟨fourth, rest⟩⟩⟩
  · change (form.read? [.given first, .beyond, .beyond]).bind _ = none
    rw [unread, Option.bind_none]
  · change (form.read? [.given first, .given second, .beyond]).bind _ = none
    rw [unread, Option.bind_none]
  · change (form.read? [.given first, .given second, .given third]).bind _ = none
    rw [unread, Option.bind_none]
  · rfl

/-- No document is a list of items and an item as well: a list that is an item begins with a text,
and a text is no item. -/
theorem read?_eq_none_of_list
    {document : Document}
    {items : List Item}
    (reads : (Codec.list codec).read? document = some items) :
    codec.read? document = none := by
  obtain ⟨documents, rfl, each⟩ := read?_list_eq_some_iff.mp reads
  cases each with
  | nil => rfl
  | @cons first _ rest _ readsFirst _ =>
      cases first with
      | null | boolean _ | number _ | array _ | object _ | unreadable =>
          exact read?_array_of_refused rfl rest
      | text name => cases readsFirst

end Item

/-- Whichever way of reading is tried first, the result is the same. -/
theorem ofDocument?_eq_in_other_order (document : Document) :
    ofDocument? document = (do
      let _ ← document.toJson?
      (Item.codec.read? document).map ([·]) <|> (Codec.list Item.codec).read? document) := by
  unfold ofDocument?
  congr 1
  funext _
  cases many : (Codec.list Item.codec).read? document with
  | none => cases Item.codec.read? document <;> rfl
  | some items => rw [Item.read?_eq_none_of_list many]; rfl

/-- A readable document is read as the items that it states. -/
theorem ofDocument?_eq_some_iff
    {document : Document}
    {items : List Item} :
    ofDocument? document = some items ↔ document.toJson?.isSome ∧ States document items := by
  unfold ofDocument?
  cases readable : document.toJson? with
  | none => simp
  | some json =>
      simp only [Option.bind_eq_bind, Option.bind_some, Option.isSome_some, true_and,
        Option.orElse_eq_orElse, Option.orElse_eq_or, Option.or_eq_some_iff,
        Option.map_eq_some_iff]
      constructor
      · rintro (many | ⟨-, item, reads, rfl⟩)
        · obtain ⟨documents, rfl, each⟩ := read?_list_eq_some_iff.mp many
          exact .many each
        · exact .one reads
      · intro states
        cases states with
        | many each => exact .inl (read?_list_eq_some_iff.mpr ⟨_, rfl, each⟩)
        | one reads =>
            refine .inr ⟨?_, _, reads, rfl⟩
            cases many : (Codec.list Item.codec).read? document with
            | none => rfl
            | some items => cases (Item.read?_eq_none_of_list many).symm.trans reads

/-! ## Files -/

/-- The file at a path has a text that states items. -/
def Contains (disk : Disk) (path : String) (items : List Item) : Prop :=
  ∃ content document, disk.read? path = some content ∧ Document.ofText? content = some document ∧
    document.toJson?.isSome ∧ States document items

theorem contains_iff
    {disk : Disk}
    {path : String}
    {items : List Item} :
    Contains disk path items ↔ ∃ content, disk.read? path = some content ∧
      (Document.ofText? content).bind ofDocument? = some items := by
  simp only [Contains, Option.bind_eq_some_iff, ofDocument?_eq_some_iff, exists_and_left]

/-- A file is loaded as the items that it states. -/
theorem load_eq_ok_iff
    {disk : Disk}
    {path : String}
    {items : List Item} :
    load disk path = .ok items ↔ Contains disk path items := by
  rw [contains_iff, load]
  cases disk.read? path with
  | none => simp
  | some content =>
      simp only [Option.some.injEq, exists_eq_left']
      cases (Document.ofText? content).bind ofDocument? <;> simp

/-- A file that is not loaded is unreadable or invalid. -/
theorem kind_of_load_eq_error
    {disk : Disk}
    {path : String}
    {error : Error}
    (failed : load disk path = .error error) :
    error.kind = .io ∨ error.kind = .validation := by
  unfold load at failed
  split at failed
  · cases failed
    exact .inl rfl
  · split at failed
    · cases failed
    · cases failed
      exact .inr rfl

/-! ## Names -/

/-- The names of stage files have a beginning and an end in common, which do not overlap. -/
theorem isStageName_iff
    {name : String} :
    isStageName name = true ↔ ∃ middle, name = "tc_stage_" ++ middle ++ ".json" := by
  rw [isStageName, Bool.and_eq_true, List.isPrefixOf_iff_prefix, List.isSuffixOf_iff_suffix]
  constructor
  · rintro ⟨⟨back, front⟩, ⟨start, ends⟩⟩
    have behind : ∃ middle, back = middle ++ ".json".toList := by
      rcases List.append_eq_append_iff.mp (front.trans ends.symm) with
        ⟨middle, -, split⟩ | ⟨overlap, beginning, ending⟩
      · exact ⟨middle, split⟩
      · -- What both share would begin with a dot, and there is none in the beginning.
        cases overlap with
        | nil => exact ⟨[], ending.symm⟩
        | cons first others =>
            have dot : first = '.' := (List.cons.inj ending).1.symm
            have inside : first ∈ "tc_stage_".toList := by simp [beginning]
            rw [dot] at inside
            exact absurd inside (by decide)
    obtain ⟨middle, rfl⟩ := behind
    exact ⟨String.ofList middle, String.toList_injective (by simp [← front])⟩
  · rintro ⟨middle, rfl⟩
    rw [String.toList_append, String.toList_append]
    exact ⟨⟨middle.toList ++ ".json".toList, List.append_assoc _ _ _ |>.symm⟩, ⟨_, rfl⟩⟩

/-- The names of the stage files among those in a folder, put in order. -/
structure Staged (disk : Disk) (folder : String) (names staged : List String) : Prop where
  perm : staged.Perm
    (names.filter fun name => isStageName name && disk.isFile (Files.join folder name))
  ordered : staged.Pairwise (· ≤ ·)

/-- There is one such order. -/
theorem Staged.unique
    {disk : Disk}
    {folder : String}
    {names others staged stagedToo : List String}
    (same : names.Perm others)
    (first : Staged disk folder names staged)
    (second : Staged disk folder others stagedToo) :
    staged = stagedToo := by
  have perm := first.perm.trans ((same.filter _).trans second.perm.symm)
  exact perm.eq_of_pairwise (fun _ _ _ _ => String.le_antisymm) first.ordered second.ordered

/-- Stage files are taken in that order. -/
theorem exists_staged
    (disk : Disk)
    (folder : String)
    (names : List String) :
    ∃ staged, Staged disk folder names staged ∧
      stagePaths disk folder names = staged.map (Files.join folder) := by
  refine ⟨_, ⟨List.mergeSort_perm _ _, ?_⟩, rfl⟩
  exact pairwise_mergeSort_decide (· ≤ ·) (fun _ _ _ => String.le_trans) String.le_total _

/-! ## Folders -/

/-- A folder is loaded as the items of all its stage files, in the order of their names. -/
theorem loadFolder_eq_ok_iff
    {disk : Disk}
    {folder : String}
    {names staged : List String}
    {items : List Item}
    (listed : disk.names? folder = some names)
    (inOrder : Staged disk folder names staged) :
    loadFolder disk folder = .ok items ↔ ∃ parts,
      List.Forall₂ (fun name part => Contains disk (Files.join folder name) part) staged parts ∧
        parts.flatten = items := by
  obtain ⟨_, alsoInOrder, paths⟩ := exists_staged disk folder names
  obtain rfl := inOrder.unique (.refl names) alsoInOrder
  simp only [loadFolder, listed, paths, map_eq_ok_iff, mapM_eq_ok_iff_forall₂,
    List.forall₂_map_left_iff, load_eq_ok_iff]

/-- One file that states no items leaves none. -/
theorem exists_error_of_loadFolder
    {disk : Disk}
    {folder : String}
    {names staged : List String}
    (listed : disk.names? folder = some names)
    (inOrder : Staged disk folder names staged)
    (broken : ∃ name ∈ staged, ∀ part, ¬Contains disk (Files.join folder name) part) :
    ∃ error, loadFolder disk folder = .error error ∧
      (error.kind = .io ∨ error.kind = .validation) := by
  cases loaded : loadFolder disk folder with
  | ok items =>
      obtain ⟨name, member, nothing⟩ := broken
      obtain ⟨parts, each, -⟩ := (loadFolder_eq_ok_iff listed inOrder).mp loaded
      obtain ⟨part, -, holds⟩ := exists_of_mem_of_forall₂ each member
      exact absurd holds (nothing part)
  | error error =>
      simp only [loadFolder, listed] at loaded
      cases all : (stagePaths disk folder names).mapM (load disk) with
      | ok parts =>
          rw [all] at loaded
          cases loaded
      | error cause =>
          rw [all] at loaded
          cases loaded
          obtain ⟨path, -, failed⟩ := exists_of_mapM_eq_error all
          exact ⟨error, rfl, kind_of_load_eq_error failed⟩

/-- A folder that is listed in another order is loaded as before. -/
theorem loadFolder_eq_of_perm
    {disk other : Disk}
    {folder : String}
    {names others : List String}
    (same : names.Perm others)
    (listed : disk.names? folder = some names)
    (listedToo : other.names? folder = some others)
    (files : other.isFile = disk.isFile)
    (texts : other.read? = disk.read?) :
    loadFolder other folder = loadFolder disk folder := by
  obtain ⟨staged, inOrder, paths⟩ := exists_staged disk folder names
  obtain ⟨stagedToo, alsoInOrder, pathsToo⟩ := exists_staged other folder others
  have loads : load other = load disk := by
    funext path
    rw [load, load, texts]
  have order : staged = stagedToo := by
    refine inOrder.unique same ⟨alsoInOrder.perm.trans (.of_eq ?_), alsoInOrder.ordered⟩
    rw [files]
  simp only [loadFolder, listed, listedToo, paths, pathsToo, loads, order]

end Staging
end ThreatIntel
