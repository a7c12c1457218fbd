import Mathlib.Data.List.Nodup
import TraceArbiter.Facility.FileTree

/-!
# Paths in file trees

The trees that stand for directories have proper names, each at most once in a directory. A path that
is extended by such a name leads one step further, as far as it is not too long, so the files that
paths lead to can be told from the places where they are. The order in which directories list their
entries makes no difference to what is at a place.
-/

namespace TraceArbiter.FileTree

/-! ### Proper trees -/

/-- A name that an entry of a directory can have. -/
structure IsFileName (name : String) : Prop where
  ne_empty : name ≠ ""
  ne_dot : name ≠ "."
  ne_dots : name ≠ ".."
  slashFree : '/' ∉ name.toList
  nulFree : '\x00' ∉ name.toList
  short : name.utf8ByteSize ≤ nameLimit

instance (name : String) : Decidable (IsFileName name) :=
  decidable_of_iff
    (name ≠ "" ∧ name ≠ "." ∧ name ≠ ".." ∧ '/' ∉ name.toList ∧ '\x00' ∉ name.toList ∧
      name.utf8ByteSize ≤ nameLimit)
    ⟨fun ⟨h₁, h₂, h₃, h₄, h₅, h₆⟩ => ⟨h₁, h₂, h₃, h₄, h₅, h₆⟩,
      fun h => ⟨h.ne_empty, h.ne_dot, h.ne_dots, h.slashFree, h.nulFree, h.short⟩⟩

/-- Every entry has a proper name, and no directory has two entries of one name. -/
def isProper : FileTree → Bool
  | .file _ => true
  | .directory entries => decide (entries.map Prod.fst).Nodup && areProper entries
where
  areProper : List (String × FileTree) → Bool
    | [] => true
    | (name, t) :: entries => decide (IsFileName name) && t.isProper && areProper entries

theorem areProper_iff {entries : List (String × FileTree)} :
    isProper.areProper entries ↔ ∀ entry ∈ entries, IsFileName entry.1 ∧ entry.2.isProper := by
  induction entries with
  | nil => simp [isProper.areProper]
  | cons entry entries ih => simp [isProper.areProper, ih, and_assoc]

theorem isProper_directory {entries : List (String × FileTree)} :
    (directory entries).isProper ↔
      (entries.map Prod.fst).Nodup ∧ ∀ entry ∈ entries, IsFileName entry.1 ∧ entry.2.isProper := by
  rw [isProper, Bool.and_eq_true, decide_eq_true_eq, areProper_iff]

/-! ### Places -/

variable {t t' : FileTree} {place : List String} {entries : List (String × FileTree)} {name : String}

theorem at?_append (t : FileTree) (place names : List String) :
    t.at? (place ++ names) = (t.at? place).bind (·.at? names) := by
  induction place generalizing t with
  | nil => rfl
  | cons name place ih =>
    rw [List.cons_append, at?, at?, Option.bind_assoc]
    exact congrArg _ (funext ih)

theorem at?_concat (h : t.at? place = some (.directory entries)) (name : String) :
    t.at? (place ++ [name]) = entries.lookup name := by
  rw [at?_append, h, Option.bind_some, at?, entry?]
  cases entries.lookup name <;> rfl

theorem at?_concat_file {content : ByteArray} (h : t.at? place = some (.file content)) (name : String) :
    t.at? (place ++ [name]) = none := by
  rw [at?_append, h]
  rfl

/-- What has entries is a directory. -/
theorem exists_directory {u : FileTree} (h : t.at? (place ++ [name]) = some u) :
    ∃ entries, t.at? place = some (.directory entries) ∧ entries.lookup name = some u := by
  cases hplace : t.at? place with
  | none =>
    rw [at?_append, hplace] at h
    cases h
  | some v =>
    cases v with
    | file content =>
      rw [at?_concat_file hplace] at h
      cases h
    | directory entries => exact ⟨entries, rfl, by rwa [at?_concat hplace] at h⟩

theorem mem_of_lookup {u : FileTree} (h : entries.lookup name = some u) : (name, u) ∈ entries := by
  obtain ⟨front, back, rfl, -⟩ := List.lookup_eq_some_iff.mp h
  simp

theorem isSome_lookup : (entries.lookup name).isSome ↔ name ∈ entries.map Prod.fst := by
  rw [List.lookup_isSome_iff, List.mem_map]
  exact exists_congr fun entry => and_congr_right fun _ => beq_iff_eq.trans eq_comm

theorem isProper_at? (ht : t.isProper) {u : FileTree} (h : t.at? place = some u) : u.isProper := by
  induction place generalizing t with
  | nil =>
    obtain rfl := Option.some.inj h
    exact ht
  | cons name place ih =>
    cases t with
    | file content => cases h
    | directory entries =>
      rw [at?, entry?, Option.bind_eq_some_iff] at h
      obtain ⟨v, hlookup, hrest⟩ := h
      exact ih ((isProper_directory.mp ht).2 _ (mem_of_lookup hlookup)).2 hrest

/-- Whatever stands in a directory of a proper tree has a proper name. -/
theorem isFileName_of_at? (ht : t.isProper) {u : FileTree} (h : t.at? (place ++ [name]) = some u) :
    IsFileName name := by
  obtain ⟨entries, hplace, hlookup⟩ := exists_directory h
  exact ((isProper_directory.mp (isProper_at? ht hplace)).2 _ (mem_of_lookup hlookup)).1

/-! ### Paths -/

theorem walk_append (t : FileTree) (place xs ys : List String) :
    t.walk place (xs ++ ys) = (t.walk place xs).bind fun place => t.walk place ys := by
  induction xs generalizing place with
  | nil => rfl
  | cons name xs ih =>
    rw [List.cons_append, walk, walk]
    split
    · split_ifs <;> first | rfl | exact ih _
    · rfl
    · rfl

theorem walk_empty_name {place' : List String} (h : t.walk place [""] = .ok place') : place = place' := by
  rw [walk] at h
  split at h
  · rw [if_pos (by decide), walk] at h
    exact Except.ok.inj h
  · cases h
  · cases h

theorem walk_name_eq_ok_iff (hname : IsFileName name) {place' : List String} :
    t.walk place [name] = .ok place' ↔
      (t.at? (place ++ [name])).isSome ∧ place ++ [name] = place' := by
  have hmoves : ¬(name.isEmpty || decide (name = ".")) := by
    simp [hname.ne_empty, hname.ne_dot]
  cases hplace : t.at? place with
  | none => simp [walk, at?_append, hplace]
  | some u =>
    cases u with
    | file content => simp [walk, at?_concat_file hplace, hplace]
    | directory entries =>
      rw [walk, hplace, at?_concat hplace]
      dsimp only
      rw [if_neg hmoves, if_neg hname.ne_dots, if_neg (Nat.not_lt.mpr hname.short)]
      split <;> simp [*, walk]

theorem join_eq (path : String) (hname : '/' ∉ name.toList) :
    join path name =
      if path.isEmpty || path.toList.getLast? = some '/' then path ++ name
      else path ++ "/" ++ name := by
  unfold join
  rw [if_neg fun hhead => hname (List.mem_of_head? hhead)]

theorem names_of_slashFree (hname : '/' ∉ name.toList) : names name = [name] := by
  rw [names, List.splitOn_eq_singleton hname, List.map_singleton, String.ofList_toList]

theorem names_append_slash (front back : String) :
    names (front ++ "/" ++ back) = names front ++ names back := by
  have hchars : (front ++ "/" ++ back).toList = front.toList ++ '/' :: back.toList := by
    simp
  rw [names, hchars, List.splitOn_append_cons_self, List.map_append]
  rfl

/-- A name becomes one more name of the path, unless the last name was empty: then it takes the place
of that. -/
theorem names_join (path : String) (hname : '/' ∉ name.toList) :
    ∃ front back, names path = front ++ back ∧ (back = [] ∨ back = [""]) ∧
      names (join path name) = front ++ [name] := by
  rw [join_eq path hname]
  split
  · next hends =>
    rw [Bool.or_eq_true, String.isEmpty_iff, decide_eq_true_eq] at hends
    obtain rfl | hslash := hends
    · refine ⟨[], [""], rfl, .inr rfl, ?_⟩
      rw [String.empty_append, names_of_slashFree hname, List.nil_append]
    · obtain ⟨front, hfront⟩ := List.getLast?_eq_some_iff.mp hslash
      obtain rfl : path = String.ofList front ++ "/" := by
        rw [← String.toList_inj, hfront]
        simp
      have hempty : names "" = [""] := names_of_slashFree (by decide)
      refine ⟨names (.ofList front), [""], ?_, .inr rfl, ?_⟩
      · rw [← hempty, ← names_append_slash, String.append_empty]
      · rw [names_append_slash, names_of_slashFree hname]
  · refine ⟨names path, [], (List.append_nil _).symm, .inl rfl, ?_⟩
    rw [names_append_slash, names_of_slashFree hname]

/-- A name at the end of a path is walked last. -/
theorem walk_names_join {path : String} (hname : '/' ∉ name.toList)
    (h : t.walk [] (names path) = .ok place) :
    t.walk [] (names (join path name)) = t.walk place [name] := by
  obtain ⟨front, back, hpath, hback, hjoin⟩ := names_join path hname
  rw [hpath, walk_append] at h
  rw [hjoin, walk_append]
  cases hfront : t.walk [] front with
  | error e =>
    rw [hfront] at h
    cases h
  | ok reached =>
    rw [hfront] at h
    have hreached : reached = place := by
      obtain rfl | rfl := hback
      · exact Except.ok.inj h
      · exact walk_empty_name h
    rw [← hreached]
    rfl

theorem locate_eq_ok_iff {path : String} :
    t.locate path = .ok place ↔ '\x00' ∉ path.toList ∧ path ≠ "" ∧ path.utf8ByteSize ≤ pathLimit ∧
      t.walk [] (names path) = .ok place := by
  unfold locate
  split_ifs with hnul hempty hlong
  · simp_all
  · simp_all
  · simp [Nat.not_le.mpr hlong]
  · simp_all

theorem mem_toList_join {path : String} {c : Char} (hname : '/' ∉ name.toList)
    (h : c ∈ (join path name).toList) : c ∈ path.toList ∨ c = '/' ∨ c ∈ name.toList := by
  rw [join_eq path hname] at h
  split at h <;> simp at h <;> tauto

theorem utf8ByteSize_le_join (path : String) (hname : '/' ∉ name.toList) :
    path.utf8ByteSize ≤ (join path name).utf8ByteSize := by
  rw [join_eq path hname]
  split
  · rw [String.utf8ByteSize_append]
    omega
  · rw [String.utf8ByteSize_append, String.utf8ByteSize_append]
    omega

theorem join_ne_empty {path : String} (hpath : path ≠ "") (hname : '/' ∉ name.toList) :
    join path name ≠ "" := by
  rw [join_eq path hname]
  split <;> simp [hpath]

/-- A name leads from the place of a path to the entry of that name, unless the path becomes too
long. -/
theorem locate_join_eq_ok_iff {path : String} (hpath : t.locate path = .ok place)
    (hname : IsFileName name) {place' : List String} :
    t.locate (join path name) = .ok place' ↔ (join path name).utf8ByteSize ≤ pathLimit ∧
      (t.at? (place ++ [name])).isSome ∧ place ++ [name] = place' := by
  obtain ⟨hnul, hne, -, hwalk⟩ := locate_eq_ok_iff.mp hpath
  have hjoin : '\x00' ∉ (join path name).toList := by
    intro hmem
    obtain hmem | hmem | hmem := mem_toList_join hname.slashFree hmem
    · exact hnul hmem
    · exact absurd hmem (by decide)
    · exact hname.nulFree hmem
  rw [locate_eq_ok_iff, and_iff_right hjoin, and_iff_right (join_ne_empty hne hname.slashFree),
    walk_names_join hname.slashFree hwalk, walk_name_eq_ok_iff hname]

theorem locate_join {path : String} (ht : t.isProper) (hpath : t.locate path = .ok place)
    (hshort : (join path name).utf8ByteSize ≤ pathLimit) {u : FileTree}
    (hu : t.at? (place ++ [name]) = some u) : t.locate (join path name) = .ok (place ++ [name]) := by
  rw [locate_join_eq_ok_iff hpath (isFileName_of_at? ht hu), hu]
  exact ⟨hshort, rfl, rfl⟩

/-! ### What a path depends on -/

/-- Nothing on both sides, any two files, or any two directories. -/
inductive SameForm : Option FileTree → Option FileTree → Prop
  | none : SameForm none none
  | file (content content' : ByteArray) :
    SameForm (some (.file content)) (some (.file content'))
  | directory (entries entries' : List (String × FileTree)) :
    SameForm (some (.directory entries)) (some (.directory entries'))

theorem SameForm.isSome_eq {u u' : Option FileTree} (h : SameForm u u') : u.isSome = u'.isSome := by
  cases h <;> rfl

/-- Walking takes notice of where files and directories are, and not of what files hold. -/
theorem walk_congr (h : ∀ place, SameForm (t.at? place) (t'.at? place)) (place names : List String) :
    t.walk place names = t'.walk place names := by
  induction names generalizing place with
  | nil => rfl
  | cons name names ih =>
    have hform := h place
    rw [walk, walk]
    generalize hplace : t.at? place = u, hplace' : t'.at? place = u' at hform
    cases hform with
    | none => rfl
    | file content content' => rfl
    | directory entries entries' =>
      have hentry := (h (place ++ [name])).isSome_eq
      rw [at?_concat hplace, at?_concat hplace'] at hentry
      simp only [ih, hentry]

theorem locate_congr (h : ∀ place, SameForm (t.at? place) (t'.at? place)) (path : String) :
    t.locate path = t'.locate path := by
  rw [locate, locate, walk_congr h]

/-- A path that is extended by a name leads to a place of that name, if it leads anywhere. -/
theorem getLast?_of_locate_join (path : String) (hname : IsFileName name)
    (h : t.locate (join path name) = .ok place) : place.getLast? = some name := by
  obtain ⟨-, -, -, hwalk⟩ := locate_eq_ok_iff.mp h
  obtain ⟨front, back, -, -, hjoin⟩ := names_join path hname.slashFree
  rw [hjoin, walk_append] at hwalk
  cases hfront : t.walk [] front with
  | error e =>
    rw [hfront] at hwalk
    cases hwalk
  | ok reached =>
    rw [hfront] at hwalk
    obtain ⟨-, rfl⟩ := (walk_name_eq_ok_iff hname).mp hwalk
    exact List.getLast?_concat

/-! ### Files and directories of a path -/

theorem bind_eq_ok_iff {ε α β : Type} {x : Except ε α} {f : α → Except ε β} {b : β} :
    x >>= f = .ok b ↔ ∃ a, x = .ok a ∧ f a = .ok b := by
  cases x with
  | error e => exact ⟨nofun, fun ⟨_, h, _⟩ => nomatch h⟩
  | ok a => exact ⟨fun h => ⟨a, rfl, h⟩, fun ⟨_, h, hf⟩ => Except.ok.inj h ▸ hf⟩

theorem listDirectory_eq_ok_iff {path : String} {names : List String} :
    t.listDirectory path = .ok names ↔ ∃ place entries, t.locate path = .ok place ∧
      t.at? place = some (.directory entries) ∧ entries.map Prod.fst = names := by
  unfold listDirectory
  rw [bind_eq_ok_iff]
  refine exists_congr fun place => ?_
  cases t.at? place with
  | none => simp [throw, throwThe, MonadExceptOf.throw]
  | some u =>
    cases u with
    | file content => simp [throw, throwThe, MonadExceptOf.throw]
    | directory entries => simp [pure, Except.pure]

theorem isDirectory_iff {path : String} :
    t.isDirectory path ↔ ∃ place entries, t.locate path = .ok place ∧
      t.at? place = some (.directory entries) := by
  have hlists : t.isDirectory path ↔ ∃ names, t.listDirectory path = .ok names := by
    unfold isDirectory
    cases t.listDirectory path <;> simp [Except.toOption]
  rw [hlists]
  simp only [listDirectory_eq_ok_iff]
  constructor
  · rintro ⟨names, place, entries, hpath, hplace, -⟩
    exact ⟨place, entries, hpath, hplace⟩
  · rintro ⟨place, entries, hpath, hplace⟩
    exact ⟨_, place, entries, hpath, hplace, rfl⟩

theorem openFile_eq_ok_iff {path : String} {content : ByteArray} :
    t.openFile path = .ok (place, content) ↔
      t.locate path = .ok place ∧ t.at? place = some (.file content) := by
  unfold openFile
  rw [bind_eq_ok_iff]
  constructor
  · rintro ⟨reached, hpath, hfile⟩
    split at hfile
    · next hreached =>
      cases hfile
      exact ⟨hpath, hreached⟩
    · cases hfile
    · cases hfile
  · rintro ⟨hpath, hplace⟩
    exact ⟨place, hpath, by rw [hplace]; rfl⟩

theorem isFile_iff {path : String} :
    t.isFile path ↔ ∃ place content, t.openFile path = .ok (place, content) := by
  unfold isFile
  cases t.openFile path with
  | error e => exact iff_of_false nofun nofun
  | ok opened => exact iff_of_true rfl ⟨opened.1, opened.2, rfl⟩

theorem readText_eq_ok_iff {path text : String} :
    t.readText path = .ok text ↔ ∃ place content, t.locate path = .ok place ∧
      t.at? place = some (.file content) ∧ Text.ofBytes? content = some text := by
  unfold readText
  rw [bind_eq_ok_iff]
  constructor
  · rintro ⟨⟨place, content⟩, hopen, htext⟩
    obtain ⟨hpath, hplace⟩ := openFile_eq_ok_iff.mp hopen
    cases hvalid : Text.ofBytes? content with
    | none =>
      simp only [hvalid] at htext
      cases htext
    | some text' =>
      simp only [hvalid] at htext
      cases htext
      exact ⟨place, content, hpath, hplace, hvalid⟩
  · rintro ⟨place, content, hpath, hplace, hvalid⟩
    refine ⟨_, openFile_eq_ok_iff.mpr ⟨hpath, hplace⟩, ?_⟩
    simp only [hvalid]
    rfl

end TraceArbiter.FileTree
