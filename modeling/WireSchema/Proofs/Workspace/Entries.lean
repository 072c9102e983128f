import WireSchema.Proofs.Document.Table
import WireSchema.Workspace.Writer

namespace WireSchema.Workspace

/-!
# Entries before and after an operation

An operation on a workspace is described by the entries that names have before and after it: which
names have been given a content, and where directories may have been added; all other names have the
entry they had.  Such descriptions compose.  To make the directory of a location adds directories
only, and only where the names of the location pass; where they lead does not depend on the
workspace.  A staged file has names that nothing had before, so putting it and removing it again
changes nothing.
-/

variable {workspace after : Workspace} {names other : List String} {entry : Entry}

/-! ## One entry -/

theorem entry?_eq_lookupKey? (given : names ≠ []) :
    workspace.entry? names = lookupKey? names workspace.entries := by
  unfold entry?
  rw [if_neg (mt List.isEmpty_iff.mp given)]
  rfl

theorem entry?_remove_self (workspace : Workspace) (given : names ≠ []) :
    entry? (workspace.remove names) names = none := by
  rw [entry?_eq_lookupKey? given, lookupKey?, Option.map_eq_none_iff, List.find?_eq_none]
  intro pair kept same
  have different := (List.mem_filter.mp kept).2
  exact absurd (beq_iff_eq.mp same) (bne_iff_ne.mp different)

theorem entry?_remove_of_ne (workspace : Workspace) (different : other ≠ names) :
    entry? (workspace.remove names) other = workspace.entry? other := by
  by_cases given : other = []
  · rw [given]
    rfl
  · have test : (fun pair : List String × Entry =>
        decide ((pair.1 != names) = true ∧ (pair.1 == other) = true)) = (·.1 == other) := by
      funext pair
      rw [Bool.eq_iff_iff, decide_eq_true_eq, beq_iff_eq, bne_iff_ne, and_iff_right_iff_imp]
      rintro rfl
      exact different
    rw [entry?_eq_lookupKey? given, entry?_eq_lookupKey? given, lookupKey?, remove,
      List.find?_filter, test]
    rfl

theorem entry?_put_self (workspace : Workspace) (given : names ≠ []) :
    entry? (workspace.put names entry) names = some entry := by
  have absent := workspace.entry?_remove_self given
  rw [entry?_eq_lookupKey? given] at absent ⊢
  change lookupKey? names ((workspace.remove names).entries ++ [(names, entry)]) = some entry
  rw [lookupKey?_append, absent, lookupKey?, List.find?_singleton, if_pos (beq_self_eq_true names)]
  rfl

theorem entry?_put_of_ne (workspace : Workspace) (different : other ≠ names) :
    entry? (workspace.put names entry) other = workspace.entry? other := by
  by_cases given : other = []
  · rw [given]
    rfl
  · have apart : ¬(names == other) = true := fun same => different (beq_iff_eq.mp same).symm
    rw [← workspace.entry?_remove_of_ne different, entry?_eq_lookupKey? given,
      entry?_eq_lookupKey? given]
    change lookupKey? other ((workspace.remove names).entries ++ [(names, entry)]) = _
    rw [lookupKey?_append, lookupKey?.eq_def other [_], List.find?_singleton, if_neg apart,
      Option.map_none, Option.or_none]

/-! ## Names that nothing has -/

theorem le_foldl_max {α : Type} (size : α → Nat) (items : List α) (start : Nat) :
    start ≤ items.foldl (fun greatest item => max greatest (size item)) start ∧
      ∀ item ∈ items, size item ≤
        items.foldl (fun greatest item => max greatest (size item)) start := by
  induction items generalizing start with
  | nil => exact ⟨Nat.le_refl start, List.forall_mem_nil _⟩
  | cons first items ih =>
      rcases ih (max start (size first)) with ⟨least, each⟩
      refine ⟨Nat.le_trans (Nat.le_max_left _ _) least, List.forall_mem_cons.mpr ⟨?_, each⟩⟩
      exact Nat.le_trans (Nat.le_max_right _ _) least

theorem length_le_longestName {entries : List (List String × Entry)}
    {pair : List String × Entry} (member : pair ∈ entries) :
    (pair.1.getLast?.getD "").length ≤ longestName entries :=
  (le_foldl_max (fun pair : List String × Entry => (pair.1.getLast?.getD "").length) entries 0).2
    pair member

theorem getLast?_stagedNames (workspace : Workspace) (directory : List String) (name : String) :
    ∃ staged, (workspace.stagedNames directory name).getLast? = some staged ∧
      staged.length = name.length + longestName workspace.entries + 6 := by
  refine ⟨_, List.getLast?_concat, ?_⟩
  simp only [String.length_append, String.length_ofList, List.length_replicate]
  have marks : ".".length = 1 ∧ ".tmp".length = 4 := by decide
  omega

/-- A staged file is put where nothing is. -/
theorem entry?_stagedNames (workspace : Workspace) (directory : List String) (name : String) :
    workspace.entry? (workspace.stagedNames directory name) = none := by
  rcases workspace.getLast?_stagedNames directory name with ⟨staged, last, longer⟩
  rw [entry?_eq_lookupKey? (by simp [stagedNames])]
  cases found : lookupKey? (workspace.stagedNames directory name) workspace.entries with
  | none => rfl
  | some entry =>
      have short := length_le_longestName (mem_of_lookupKey? found)
      rw [last, Option.getD_some] at short
      omega

theorem stagedNames_ne (workspace : Workspace) (directory : List String) (name : String) :
    workspace.stagedNames directory name ≠ directory ++ [name] := by
  intro same
  rcases workspace.getLast?_stagedNames directory name with ⟨staged, last, longer⟩
  rw [same, List.getLast?_concat, Option.some.injEq] at last
  rw [last] at longer
  omega

/-! ## What an operation changes -/

/-- A workspace after contents have been put at names, the later ones over the earlier ones.  Of all
other names nothing is lost or replaced, and nothing is added but directories, which are among some
names.  No content takes the place of a directory. -/
structure Gains (before : Workspace) (contents : List (List String × String))
    (among : List String → Prop) (after : Workspace) : Prop where
  root : after.root = before.root
  written : ∀ names content, lookupKey? names contents.reverse = some content →
    after.entry? names = some (.file (.text content))
  kept : ∀ names entry, lookupKey? names contents.reverse = none →
    before.entry? names = some entry → after.entry? names = some entry
  added : ∀ names, lookupKey? names contents.reverse = none → before.entry? names = none →
    after.entry? names = none ∨ (after.entry? names = some .directory ∧ among names)
  directories : ∀ names, before.entry? names = some .directory →
    after.entry? names = some .directory

namespace Gains

variable {before middle : Workspace} {among further : List String → Prop}
  {contents others : List (List String × String)}

theorem of_entry?_eq (root : after.root = before.root)
    (same : ∀ names, after.entry? names = before.entry? names) : Gains before [] among after :=
  ⟨root, nofun, fun names _ _ present => (same names).trans present,
    fun names _ absent => Or.inl ((same names).trans absent),
    fun names present => (same names).trans present⟩

theorem refl (workspace : Workspace) (among : List String → Prop) :
    Gains workspace [] among workspace :=
  .of_entry?_eq rfl fun _ => rfl

theorem imp (gains : Gains before contents among after)
    (weaker : ∀ names, among names → further names) : Gains before contents further after :=
  ⟨gains.root, gains.written, gains.kept, fun names other absent =>
    (gains.added names other absent).imp_right (And.imp_right (weaker names)), gains.directories⟩

theorem trans (first : Gains before contents among middle)
    (second : Gains middle others among after) : Gains before (contents ++ others) among after := by
  have either : ∀ names, lookupKey? names (contents ++ others).reverse =
      (lookupKey? names others.reverse).or (lookupKey? names contents.reverse) := by
    intro names
    rw [List.reverse_append, lookupKey?_append]
  refine ⟨second.root.trans first.root, ?_, ?_, ?_, fun names present =>
    second.directories names (first.directories names present)⟩
  · intro names content found
    rw [either, Option.or_eq_some_iff] at found
    rcases found with last | ⟨absent, earlier⟩
    · exact second.written names content last
    · exact second.kept names _ absent (first.written names content earlier)
  · intro names entry absent present
    rw [either, Option.or_eq_none_iff] at absent
    exact second.kept names entry absent.1 (first.kept names entry absent.2 present)
  · intro names absent missing
    rw [either, Option.or_eq_none_iff] at absent
    rcases first.added names absent.2 missing with still | ⟨made, own⟩
    · exact second.added names absent.1 still
    · exact Or.inr ⟨second.kept names _ absent.1 made, own⟩

theorem put_directory (absent : before.entry? names = none) (own : among names) :
    Gains before [] among (before.put names .directory) := by
  have stays : ∀ other entry, before.entry? other = some entry →
      entry? (before.put names .directory) other = some entry := by
    intro other entry present
    have different : other ≠ names := by
      rintro rfl
      cases absent.symm.trans present
    rw [entry?_put_of_ne _ different, present]
  refine ⟨rfl, nofun, fun other entry _ => stays other entry, fun other _ missing => ?_,
    fun other => stays other .directory⟩
  by_cases same : other = names
  · have given : names ≠ [] := by
      rintro rfl
      cases absent
    rw [same, entry?_put_self _ given]
    exact Or.inr ⟨rfl, own⟩
  · rw [entry?_put_of_ne _ same]
    exact Or.inl missing

theorem put_content (given : names ≠ []) (free : workspace.isDirectory names = false)
    (content : String) :
    Gains workspace [(names, content)] among (workspace.put names (.file (.text content))) := by
  have own : lookupKey? names [(names, content)] = some content := by
    rw [lookupKey?, List.find?_singleton, if_pos (beq_self_eq_true names), Option.map_some]
  have apart : ∀ other, lookupKey? other [(names, content)] = none → other ≠ names := by
    rintro other absent rfl
    cases own.symm.trans absent
  have only : ∀ other found, lookupKey? other [(names, content)] = some found →
      other = names ∧ found = content := by
    intro other found looked
    exact Prod.mk.inj (List.mem_singleton.mp (mem_of_lookupKey? looked))
  refine ⟨rfl, ?_, ?_, ?_, ?_⟩
  · intro other found looked
    rcases only other found looked with ⟨rfl, rfl⟩
    exact entry?_put_self _ given
  · intro other entry absent present
    rw [entry?_put_of_ne _ (apart other absent), present]
  · intro other absent missing
    rw [entry?_put_of_ne _ (apart other absent)]
    exact Or.inl missing
  · intro other present
    have different : other ≠ names := by
      rintro rfl
      exact Bool.false_ne_true (free.symm.trans (beq_iff_eq.mpr present))
    rw [entry?_put_of_ne _ different, present]

end Gains

/-- Nothing is left of what was put where nothing was and then removed. -/
theorem entry?_remove_put (absent : workspace.entry? names = none) (other : List String) :
    entry? ((workspace.put names entry).remove names) other = workspace.entry? other := by
  by_cases same : other = names
  · have given : names ≠ [] := by
      rintro rfl
      cases absent
    rw [same, entry?_remove_self _ given, absent]
  · rw [entry?_remove_of_ne _ same, entry?_put_of_ne _ same]

/-! ## Making directories -/

/-- The directory to which a name leads from a directory.  The mark of the parent
leads up, and at the top it leads nowhere else. -/
def enter (directory : List String) (name : String) : List String :=
  if name = Location.parentMark then directory.dropLast else directory ++ [name]

theorem normalNames_eq (names : List String) :
    Location.normalNames names = names.foldl enter [] := rfl

/-- The names of the directories through which names lead from a directory.  A
step up passes through the parent again, so that these need not be prefixes of
the names. -/
def IsPassed (start names directory : List String) : Prop :=
  ∃ first, first <+: names ∧ directory = first.foldl enter start

theorem IsPassed.cons {start directory : List String} {name : String}
    (passed : IsPassed (enter start name) names directory) :
    IsPassed start (name :: names) directory := by
  rcases passed with ⟨first, before, rfl⟩
  exact ⟨name :: first, List.cons_prefix_cons.mpr ⟨rfl, before⟩, rfl⟩

theorem isPassed_enter (start : List String) (name : String) (names : List String) :
    IsPassed start (name :: names) (enter start name) :=
  ⟨[name], List.cons_prefix_cons.mpr ⟨rfl, List.nil_prefix⟩, rfl⟩

/-- A directory is refused or made, or it is there already, before the next ones are made. -/
theorem makeFrom_cons_cases (workspace : Workspace) (start : List String) (name : String)
    (names : List String) :
    (∃ fault, workspace.makeFrom start (name :: names) = (workspace, .error fault)) ∨
      ∃ middle,
        workspace.makeFrom start (name :: names) = middle.makeFrom (enter start name) names ∧
        Gains workspace [] (· = enter start name) middle ∧ Location.isLongName name = false ∧
        (name = Location.parentMark → start ≠ []) ∧
        (name ≠ Location.parentMark → middle.entry? (enter start name) = some .directory) := by
  rw [makeFrom]
  split
  · exact Or.inl ⟨_, rfl⟩
  · rename_i short
    rw [Bool.not_eq_true] at short
    split
    · rename_i isParent
      have up : enter start name = start.dropLast := if_pos isParent
      split
      · exact Or.inl ⟨_, rfl⟩
      · rename_i inside
        exact Or.inr ⟨workspace, by rw [up], .refl workspace _, short,
          fun _ => mt List.isEmpty_iff.mpr inside, fun isName => absurd isParent isName⟩
    · rename_i isName
      have down : enter start name = start ++ [name] := if_neg isName
      simp only [← down]
      cases found : workspace.entry? (enter start name) with
      | none =>
          have given : enter start name ≠ [] := down ▸ List.concat_ne_nil _ _
          exact Or.inr ⟨_, rfl, .put_directory found rfl, short,
            fun isParent => absurd isParent isName, fun _ => entry?_put_self _ given⟩
      | some entry =>
          cases entry with
          | file content => exact Or.inl ⟨_, rfl⟩
          | directory =>
              exact Or.inr ⟨workspace, rfl, .refl workspace _, short,
                fun isParent => absurd isParent isName, fun _ => found⟩

/-- Directories are made along the names, and the last one is where the names lead. -/
theorem makeFrom_gains (workspace : Workspace) (start names : List String) :
    Gains workspace [] (IsPassed start names) (workspace.makeFrom start names).1 ∧
      ∀ directory, (workspace.makeFrom start names).2 = .ok directory →
        directory = names.foldl enter start := by
  induction names generalizing workspace start with
  | nil =>
      refine ⟨.refl workspace _, fun directory made => ?_⟩
      cases made
      rfl
  | cons name names ih =>
      rcases workspace.makeFrom_cons_cases start name names with
        ⟨fault, refused⟩ | ⟨middle, goesOn, gains, -, -⟩
      · rw [refused]
        exact ⟨.refl workspace _, nofun⟩
      · rw [goesOn]
        have first := gains.imp fun directory (same : directory = enter start name) =>
          same ▸ isPassed_enter start name names
        exact ⟨first.trans ((ih middle _).1.imp fun _ => IsPassed.cons), (ih middle _).2⟩

/-- A name leads on from a directory unless it is too long or leads out of the working directory. -/
theorem walk_cons_eq_ok_iff {start directory : List String} {name : String} :
    workspace.walk start (name :: names) = .ok directory ↔
      workspace.entry? start = some .directory ∧ Location.isLongName name = false ∧
        (name = Location.parentMark → start ≠ []) ∧
        workspace.walk (enter start name) names = .ok directory := by
  rw [walk]
  cases workspace.entry? start with
  | none => exact ⟨nofun, nofun⟩
  | some entry =>
      cases entry with
      | file content => exact ⟨nofun, nofun⟩
      | directory =>
          rw [enter]
          by_cases long : Location.isLongName name = true
          · simp [long]
          · by_cases isParent : name = Location.parentMark
            · subst isParent
              by_cases outside : start = []
              · simp [long, outside]
              · simp [long, outside]
            · simp [long, isParent]

/-- A name that stands for no other directory leads from a directory to what it names there. -/
theorem walk_concat {start directory : List String} {name : String}
    (leads : workspace.walk start names = .ok directory)
    (present : workspace.entry? directory = some .directory)
    (short : Location.isLongName name = false) (isName : name ≠ Location.parentMark) :
    workspace.walk start (names ++ [name]) = .ok (directory ++ [name]) := by
  induction names generalizing start with
  | nil =>
      cases leads
      have entered : enter directory name = directory ++ [name] := if_neg isName
      exact walk_cons_eq_ok_iff.mpr
        ⟨present, short, fun isParent => absurd isParent isName, congrArg Except.ok entered⟩
  | cons first names ih =>
      rcases walk_cons_eq_ok_iff.mp leads with ⟨held, fits, inner, goesOn⟩
      exact walk_cons_eq_ok_iff.mpr ⟨held, fits, inner, ih goesOn⟩

/-- Names along which directories have been made lead to the last one of them. -/
theorem walk_makeFrom {start directory : List String}
    (inside : ∀ first, first <+: start → workspace.entry? first = some .directory)
    (made : (workspace.makeFrom start names).2 = .ok directory) :
    (workspace.makeFrom start names).1.walk start names = .ok directory ∧
      entry? (workspace.makeFrom start names).1 directory = some .directory := by
  induction names generalizing workspace start with
  | nil =>
      cases made
      exact ⟨rfl, inside _ (List.prefix_refl _)⟩
  | cons name names ih =>
      rcases workspace.makeFrom_cons_cases start name names with
        ⟨fault, refused⟩ | ⟨middle, goesOn, gains, short, inner, entered⟩
      · rw [refused] at made
        cases made
      · have within : ∀ first, first <+: enter start name →
            middle.entry? first = some .directory := by
          intro first before
          by_cases isParent : name = Location.parentMark
          · rw [enter, if_pos isParent] at before
            exact gains.directories _ (inside first (before.trans (List.dropLast_prefix start)))
          · have present := entered isParent
            rw [enter, if_neg isParent] at before present
            rcases List.prefix_concat_iff.mp before with rfl | earlier
            · exact present
            · exact gains.directories _ (inside first earlier)
        rw [goesOn] at made ⊢
        rcases ih within made with ⟨leads, present⟩
        have reached := gains.directories _ (inside start (List.prefix_refl start))
        have still := (middle.makeFrom_gains (enter start name) names).1.directories _ reached
        exact ⟨walk_cons_eq_ok_iff.mpr ⟨still, short, inner, leads⟩, present⟩

/-- Names lead to the same place as long as no directory is lost. -/
theorem walk_of_directories {start directory : List String}
    (kept : ∀ names, workspace.entry? names = some .directory →
      after.entry? names = some .directory)
    (leads : workspace.walk start names = .ok directory) :
    after.walk start names = .ok directory := by
  induction names generalizing start with
  | nil => exact leads
  | cons name names ih =>
      rcases walk_cons_eq_ok_iff.mp leads with ⟨present, short, inner, goesOn⟩
      exact walk_cons_eq_ok_iff.mpr ⟨kept start present, short, inner, ih goesOn⟩

/-- The directory of a location is made, or as much of it as can be, and then the location leads to
it. -/
theorem makeDirectory_gains (workspace : Workspace) (location : Location) :
    Gains workspace [] (IsPassed [] location.names) (workspace.makeDirectory location).1 ∧
      ∀ directory, (workspace.makeDirectory location).2 = .ok directory →
        directory = Location.normalNames location.names ∧
          (workspace.makeDirectory location).1.walk [] location.names = .ok directory ∧
          entry? (workspace.makeDirectory location).1 directory = some .directory := by
  rw [makeDirectory]
  split
  · exact ⟨.refl workspace _, nofun⟩
  · split
    · exact ⟨.refl workspace _, nofun⟩
    · rcases workspace.makeFrom_gains [] location.names with ⟨gains, leads⟩
      refine ⟨gains, fun directory made => ⟨leads directory made, walk_makeFrom ?_ made⟩⟩
      intro first before
      rw [List.prefix_nil.mp before]
      rfl

end WireSchema.Workspace
