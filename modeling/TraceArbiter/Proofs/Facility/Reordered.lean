import TraceArbiter.Proofs.Facility.Paths

/-!
# The order of entries

Directories list their entries in some order. Putting the entries of one directory of a proper tree in
another order gives a proper tree with the same files and directories at the same places, to which the
same paths lead.
-/

namespace TraceArbiter.FileTree

variable {t t' : FileTree} {place : List String} {entries : List (String × FileTree)} {name : String}

/-- One directory of the tree has its entries in another order. -/
inductive Reorders : FileTree → FileTree → Prop
  | shuffle {entries entries' : List (String × FileTree)} (h : entries.Perm entries') :
    Reorders (.directory entries) (.directory entries')
  | inside {t t' : FileTree} (front : List (String × FileTree)) (name : String)
    (back : List (String × FileTree)) (h : Reorders t t') :
    Reorders (.directory (front ++ (name, t) :: back)) (.directory (front ++ (name, t') :: back))

/-- Nothing on both sides, the same file, or any two directories. -/
inductive SameKind : Option FileTree → Option FileTree → Prop
  | none : SameKind none none
  | file (content : ByteArray) : SameKind (some (.file content)) (some (.file content))
  | directory (entries entries' : List (String × FileTree)) :
    SameKind (some (.directory entries)) (some (.directory entries'))

theorem SameKind.refl (u : Option FileTree) : SameKind u u := by
  match u with
  | .none => exact .none
  | .some (.file content) => exact .file content
  | .some (.directory entries) => exact .directory entries entries

theorem SameKind.sameForm {u u' : Option FileTree} (h : SameKind u u') : SameForm u u' := by
  cases h with
  | none => exact .none
  | file content => exact .file content content
  | directory entries entries' => exact .directory entries entries'

/-- The trees have the same files and the same directories at the same places. -/
def SamePlaces (t t' : FileTree) : Prop :=
  ∀ place, SameKind (t.at? place) (t'.at? place)

theorem lookup_eq_some_iff (hnames : (entries.map Prod.fst).Nodup) {u : FileTree} :
    entries.lookup name = some u ↔ (name, u) ∈ entries := by
  refine ⟨mem_of_lookup, fun hmem => ?_⟩
  obtain ⟨front, back, rfl⟩ := List.append_of_mem hmem
  rw [List.map_append, List.map_cons, List.nodup_append] at hnames
  refine List.lookup_eq_some_iff.mpr ⟨front, back, rfl, fun entry hentry => bne_iff_ne.mpr ?_⟩
  exact (hnames.2.2 entry.1 (List.mem_map_of_mem hentry) name (.head _)).symm

theorem lookup_perm {entries' : List (String × FileTree)} (hnames : (entries.map Prod.fst).Nodup)
    (h : entries.Perm entries') (name : String) : entries.lookup name = entries'.lookup name := by
  refine Option.ext fun u => ?_
  rw [lookup_eq_some_iff hnames, lookup_eq_some_iff ((h.map Prod.fst).nodup_iff.mp hnames), h.mem_iff]

namespace Reorders

theorem isProper (h : Reorders t t') (ht : t.isProper) : t'.isProper := by
  induction h with
  | shuffle hperm =>
    rw [isProper_directory] at ht ⊢
    exact ⟨(hperm.map Prod.fst).nodup_iff.mp ht.1,
      fun entry hentry => ht.2 entry (hperm.mem_iff.mpr hentry)⟩
  | inside front name back _ ih =>
    rw [isProper_directory] at ht ⊢
    simp only [List.map_append, List.map_cons, List.forall_mem_append, List.forall_mem_cons] at ht ⊢
    exact ⟨ht.1, ht.2.1, ⟨ht.2.2.1.1, ih ht.2.2.1.2⟩, ht.2.2.2⟩

theorem samePlaces (h : Reorders t t') (ht : t.isProper) : SamePlaces t t' := by
  induction h with
  | shuffle hperm =>
    rw [isProper_directory] at ht
    rintro (_ | ⟨name, place⟩)
    · exact .directory _ _
    · rw [at?, at?, entry?, entry?, lookup_perm ht.1 hperm]
      exact .refl _
  | inside front name back _ ih =>
    rw [isProper_directory] at ht
    have hsame := ih (ht.2 (name, _) (List.mem_append_right _ (.head _))).2
    rintro (_ | ⟨name', place⟩)
    · exact .directory _ _
    · rw [at?, at?, entry?, entry?, List.lookup_append, List.lookup_append]
      cases front.lookup name' with
      | some u => exact .refl _
      | none =>
        rw [Option.none_or, Option.none_or, List.lookup_cons, List.lookup_cons]
        cases name' == name with
        | true => exact hsame place
        | false => exact .refl _

end Reorders

namespace SamePlaces

variable (h : SamePlaces t t')

include h

theorem locate_eq (path : String) : t.locate path = t'.locate path :=
  locate_congr (fun place => (h place).sameForm) path

theorem openFile_eq (path : String) : t.openFile path = t'.openFile path := by
  rw [openFile, openFile, h.locate_eq]
  refine bind_congr fun place => ?_
  have hkind := h place
  generalize t.at? place = u, t'.at? place = u' at hkind
  cases hkind <;> rfl

theorem readText_eq (path : String) : t.readText path = t'.readText path := by
  rw [readText, readText, h.openFile_eq]

theorem isDirectory_eq (path : String) : t.isDirectory path = t'.isDirectory path := by
  rw [isDirectory, isDirectory, listDirectory, listDirectory, h.locate_eq]
  cases t'.locate path with
  | error e => rfl
  | ok place =>
    have hkind := h place
    dsimp only [bind, Except.bind]
    generalize t.at? place = u, t'.at? place = u' at hkind
    cases hkind <;> rfl

/-- Directories at one place list the same names. -/
theorem mem_names_iff (hplace : t.at? place = some (.directory entries))
    {entries' : List (String × FileTree)} (hplace' : t'.at? place = some (.directory entries')) :
    name ∈ entries.map Prod.fst ↔ name ∈ entries'.map Prod.fst := by
  have hentry := (h (place ++ [name])).sameForm.isSome_eq
  rw [at?_concat hplace, at?_concat hplace'] at hentry
  rw [← isSome_lookup, ← isSome_lookup, hentry]

end SamePlaces

end TraceArbiter.FileTree
