import TraceArbiter.Proofs.Facility.Reordered

/-!
# Overwritten files

Putting a new file in the place of an old one leaves everything else in the tree where it was. So every
path leads where it led before, and of the files that paths open, only the one at that place is another.
-/

namespace TraceArbiter.FileTree

variable {t : FileTree} {place place' : List String} {content : ByteArray}

theorem lookup_cons_eq (name name' : String) (u : FileTree) (entries : List (String × FileTree)) :
    ((name, u) :: entries).lookup name' = if name' = name then some u else entries.lookup name' := by
  rw [List.lookup_cons]
  by_cases h : name' = name
  · rw [if_pos h, beq_iff_eq.mpr h]
  · rw [if_neg h, beq_eq_false_iff_ne.mpr h]

theorem lookup_setEntry (name : String) (new : FileTree) (entries : List (String × FileTree))
    (name' : String) :
    (setEntry name new entries).lookup name' =
      if name' = name then some new else entries.lookup name' := by
  induction entries with
  | nil => exact lookup_cons_eq name name' new []
  | cons entry entries ih =>
    obtain ⟨old, u⟩ := entry
    unfold setEntry
    by_cases hold : old = name
    · rw [if_pos hold, lookup_cons_eq, lookup_cons_eq, hold]
      split <;> rfl
    · rw [if_neg hold, lookup_cons_eq, lookup_cons_eq, ih]
      by_cases hname : name' = name
      · rw [if_pos hname, if_neg (hname ▸ Ne.symm hold), if_pos hname]
      · rw [if_neg hname, if_neg hname]

theorem at?_put (t : FileTree) (place : List String) (new : FileTree) :
    (t.put place new).at? place = some new := by
  induction place generalizing t with
  | nil => rfl
  | cons name place ih =>
    unfold put
    rw [at?, entry?, lookup_setEntry, if_pos rfl]
    exact ih _

/-- Where another file is put, all else stays. -/
theorem sameKind_put (h : t.at? place = some (.file content)) (new : ByteArray)
    (hne : place' ≠ place) :
    SameKind (t.at? place') ((t.put place (.file new)).at? place') := by
  induction place generalizing t place' with
  | nil =>
    obtain rfl := Option.some.inj h
    obtain ⟨name, names, rfl⟩ := List.exists_cons_of_ne_nil hne
    exact .none
  | cons name place ih =>
    cases t with
    | file content => cases h
    | directory entries =>
      rw [at?, entry?, Option.bind_eq_some_iff] at h
      obtain ⟨u, hlookup, hu⟩ := h
      cases place' with
      | nil => exact .directory _ _
      | cons name' place' =>
        rw [put, at?, at?, entry?, entry?, lookup_setEntry, hlookup, Option.getD_some]
        by_cases hname : name' = name
        · subst hname
          rw [if_pos rfl, hlookup]
          exact ih hu fun hplace => hne (by rw [hplace])
        · rw [if_neg hname]
          exact .refl _

theorem locate_put (h : t.at? place = some (.file content)) (new : ByteArray) (path : String) :
    (t.put place (.file new)).locate path = t.locate path := by
  refine (locate_congr (fun place' => ?_) path).symm
  by_cases hplace : place' = place
  · subst hplace
    rw [h, at?_put]
    exact .file content new
  · exact (sameKind_put h new hplace).sameForm

/-- The paths to the place open the new file, and all other paths what they opened before. -/
theorem openFile_put (h : t.at? place = some (.file content)) (new : ByteArray) (path : String) :
    (t.put place (.file new)).openFile path =
      if t.locate path = .ok place then .ok (place, new) else t.openFile path := by
  rw [openFile, openFile, locate_put h]
  cases t.locate path with
  | error e => rfl
  | ok reached =>
    dsimp only [bind, Except.bind]
    by_cases hplace : reached = place
    · rw [if_pos (congrArg Except.ok hplace), hplace, at?_put]
      rfl
    · rw [if_neg fun hok => hplace (Except.ok.inj hok)]
      have hkind := sameKind_put h new hplace
      generalize t.at? reached = u, (t.put place (.file new)).at? reached = u' at hkind
      cases hkind <;> rfl

end TraceArbiter.FileTree
