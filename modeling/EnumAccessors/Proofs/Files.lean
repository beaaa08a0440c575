import EnumAccessors.CommandLine.FileTree

/-!
# Files that are written

What a run leaves behind on the tree of files.  Writing changes no directory, so paths name the
same places before and after (`FileTree.locate_congr`), and the file of a plain name in a directory
is called by that name (`FileTree.getLast?_of_locate_join`).

A run that succeeds has performed its effects one after the other
(`Outcome.foldlM_of_exitCode_eq_zero`), and one whose effects can be performed succeeds
(`Outcome.exitCode_performAll_eq_zero_iff`).  Where units are written, the file of a unit holds its
text unless a later one is written to the same place, and the files at other places are as they were
(`FileTree.Written`).
-/

namespace EnumAccessors

/-! ### Paths in a directory -/

namespace Path

theorem partsFrom_of_not_mem {cs : List Char} (h : '/' ∉ cs) (part : List Char) :
    partsFrom part cs = [String.ofList (part.reverse ++ cs)] := by
  induction cs generalizing part with
  | nil => simp [partsFrom]
  | cons c rest ih =>
    rw [List.mem_cons, not_or] at h
    rw [partsFrom, if_neg (Ne.symm h.1), ih h.2]
    simp

theorem partsFrom_append_slash (part cs rest : List Char) :
    partsFrom part (cs ++ '/' :: rest) = partsFrom part cs ++ partsFrom [] rest := by
  induction cs generalizing part with
  | nil => simp [partsFrom]
  | cons c cs ih =>
    by_cases h : c = '/'
    · simp [partsFrom, h, ih]
    · simp [partsFrom, h, ih]

/-- Behind a slash a plain name is the last part. -/
theorem parts_append_name {name : String} (h : '/' ∉ name.toList) (front : String) :
    parts (front ++ "/" ++ name) = parts front ++ [name] := by
  have hslash : (front ++ "/" ++ name).toList = front.toList ++ '/' :: name.toList := by simp
  rw [parts, hslash, partsFrom_append_slash, partsFrom_of_not_mem h, parts]
  simp

/-- A plain name is put behind a slash. -/
theorem exists_join_eq {name : String} (h : '/' ∉ name.toList) (directory : String) :
    ∃ front, join directory name = front ++ "/" ++ name := by
  have hrelative : isAbsolute name = false := by
    rw [isAbsolute, beq_eq_false_iff_ne]
    exact fun hhead => h (List.mem_of_mem_head? (by rw [hhead]; rfl))
  rw [join, hrelative, if_neg Bool.false_ne_true]
  by_cases hlast : directory.toList.getLast? = some '/'
  · -- the slash is there already
    obtain ⟨cs, hcs⟩ := List.getLast?_eq_some_iff.1 hlast
    have hdirectory : directory = String.ofList cs ++ "/" := by
      rw [← String.toList_inj, hcs]
      simp
    exact ⟨String.ofList cs, by rw [if_pos hlast, ← hdirectory]⟩
  · exact ⟨directory, by rw [if_neg hlast]⟩

end Path

/-! ### Places -/

namespace FileTree

variable {t t' : FileTree} {path other text : String}

theorem walk_congr (h : t'.directories = t.directories) (place : Place) (parts : List String) :
    t'.walk place parts = t.walk place parts := by
  obtain ⟨directories, files⟩ := t
  obtain ⟨directories', files'⟩ := t'
  obtain rfl : directories' = directories := h
  induction parts generalizing place with
  | nil => rfl
  | cons part rest ih =>
    simp only [walk, ih]
    rfl

/-- Which place a path names depends on the directories alone. -/
theorem locate_congr (h : t'.directories = t.directories) : t'.locate = t.locate := by
  have hplaces : t'.placeOf = t.placeOf := by
    funext parts
    simp only [placeOf, walk_congr h]
  funext path
  rw [locate, locate, hplaces]

/-- The last part of a path to a file is the name of the file. -/
theorem getLast?_of_placeOf {parts : List String} {name : String} {place : Place}
    (h : t.placeOf (parts ++ [name]) = some place) : place.getLast? = some name := by
  simp only [placeOf, List.getLast?_concat] at h
  split at h
  · obtain ⟨base, -, rfl⟩ := Option.map_eq_some_iff.1 h
    exact List.getLast?_concat
  · cases h

/-- The file of a plain name in a directory is called by that name. -/
theorem getLast?_of_locate_join {directory name : String} {place : Place}
    (hname : '/' ∉ name.toList) (h : t.locate (Path.join directory name) = some place) :
    place.getLast? = some name := by
  obtain ⟨front, hfront⟩ := Path.exists_join_eq hname directory
  obtain ⟨parts, hparts, hplace⟩ := Option.bind_eq_some_iff.1 h
  rw [hfront, relativeParts] at hparts
  split at hparts
  · cases hparts
  · rw [Option.some.injEq, Path.parts_append_name hname] at hparts
    rw [← hparts] at hplace
    exact getLast?_of_placeOf hplace

/-! ### Single files -/

theorem write_eq_some_iff :
    t.write path text = some t' ↔ ∃ place, t.locate path = some place ∧
      t.isDirectory place = false ∧ t' = { t with files := put place text t.files } := by
  simp only [write, Option.bind_eq_some_iff]
  refine exists_congr fun place => and_congr_right fun _ => ?_
  cases t.isDirectory place <;> simp [eq_comm]

theorem directories_of_write (h : t.write path text = some t') :
    t'.directories = t.directories := by
  obtain ⟨place, -, -, rfl⟩ := write_eq_some_iff.1 h
  rfl

/-- What is written is read. -/
theorem read_of_write (h : t.write path text = some t') : t'.read path = some text := by
  have hlocate := locate_congr (directories_of_write h)
  obtain ⟨place, hplace, -, rfl⟩ := write_eq_some_iff.1 h
  rw [read, hlocate, hplace]
  exact congrArg Option.join (lookup_put_self place text t.files)

/-- Files at other places are read as before. -/
theorem read_of_write_of_ne (h : t.write path text = some t')
    (hne : t.locate path ≠ t.locate other) : t'.read other = t.read other := by
  have hlocate := locate_congr (directories_of_write h)
  obtain ⟨place, hplace, -, rfl⟩ := write_eq_some_iff.1 h
  rw [read, read, hlocate]
  cases hother : t.locate other with
  | none => rfl
  | some p =>
    have hp : p ≠ place := fun heq => hne (by rw [hplace, hother, heq])
    exact congrArg Option.join (lookup_put_of_ne hp text t.files)

end FileTree

/-! ### Effects one after the other -/

namespace Outcome

variable {o o' : Outcome}

/-- A run that succeeds has performed all its effects. -/
theorem foldlM_of_exitCode_eq_zero {result : Except Failure Unit} {effects : List Effect}
    (h : (o.performAll result effects).exitCode = 0) :
    effects.foldlM perform o = some (o.performAll result effects) ∧ result = .ok () := by
  induction effects generalizing o with
  | nil =>
    cases result with
    | ok => exact ⟨rfl, rfl⟩
    | error f => cases h
  | cons effect rest ih =>
    rw [List.foldlM_cons]
    simp only [performAll] at h ⊢
    cases hperform : o.perform effect with
    | none =>
      rw [hperform] at h
      cases h
    | some next =>
      rw [hperform] at h
      exact ih h

theorem exitCode_of_perform {effect : Effect} (h : o.perform effect = some o') :
    o'.exitCode = o.exitCode := by
  cases effect with
  | printOut line => exact Option.some.inj h ▸ rfl
  | printErr line => exact Option.some.inj h ▸ rfl
  | makeDirectory path =>
    obtain ⟨tree, -, rfl⟩ := Option.map_eq_some_iff.1 h
    rfl
  | writeFile path text =>
    obtain ⟨tree, -, rfl⟩ := Option.map_eq_some_iff.1 h
    rfl

/-- Effects come to a good end exactly if each of them can be performed. -/
theorem exitCode_performAll_eq_zero_iff {effects : List Effect} (hexit : o.exitCode = 0) :
    (o.performAll (.ok ()) effects).exitCode = 0 ↔
      ∃ done, effects.foldlM perform o = some done := by
  refine ⟨fun h => ⟨_, (foldlM_of_exitCode_eq_zero h).1⟩, ?_⟩
  rintro ⟨done, hdone⟩
  induction effects generalizing o with
  | nil => exact hexit
  | cons effect rest ih =>
    rw [List.foldlM_cons, Option.bind_eq_bind, Option.bind_eq_some_iff] at hdone
    obtain ⟨next, hnext, hrest⟩ := hdone
    rw [performAll, hnext]
    exact ih ((exitCode_of_perform hnext).trans hexit) hrest

/-- Two outcomes agree apart from what is on standard error. -/
structure Agrees (o o' : Outcome) : Prop where
  exitCode : o.exitCode = o'.exitCode
  stdout : o.stdout = o'.stdout
  tree : o.tree = o'.tree

/-- What is on standard error decides nothing. -/
theorem Agrees.performAll (h : o.Agrees o') (result : Except Failure Unit)
    (effects : List Effect) :
    (o.performAll result effects).Agrees (o'.performAll result effects) := by
  induction effects generalizing o o' with
  | nil =>
    cases result with
    | ok => exact h
    | error f => exact ⟨rfl, h.stdout, h.tree⟩
  | cons effect rest ih =>
    cases effect with
    | printOut line => exact ih ⟨h.exitCode, congrArg (· ++ line ++ "\n") h.stdout, h.tree⟩
    | printErr line => exact ih ⟨h.exitCode, h.stdout, h.tree⟩
    | makeDirectory path =>
      simp only [Outcome.performAll, perform, h.tree]
      cases o'.tree.makeDirectory path with
      | none => exact ⟨rfl, h.stdout, h.tree⟩
      | some tree => exact ih ⟨h.exitCode, h.stdout, rfl⟩
    | writeFile path text =>
      simp only [Outcome.performAll, perform, h.tree]
      cases o'.tree.write path text with
      | none => exact ⟨rfl, h.stdout, h.tree⟩
      | some tree => exact ih ⟨h.exitCode, h.stdout, rfl⟩

/-- Lines on standard error change nothing else. -/
theorem agrees_printErr (result : Except Failure Unit) (lines : List String)
    (effects : List Effect) :
    (o.performAll result (lines.map .printErr ++ effects)).Agrees
      (o.performAll result effects) := by
  -- what has been printed already does not matter
  have hlines : ∀ start : Outcome, start.Agrees o →
      (start.performAll result (lines.map .printErr ++ effects)).Agrees
        (o.performAll result effects) := by
    induction lines with
    | nil => exact fun start hstart => hstart.performAll result effects
    | cons line rest ih =>
      exact fun start hstart => ih _ ⟨hstart.exitCode, hstart.stdout, hstart.tree⟩
  exact hlines o ⟨rfl, rfl, rfl⟩

/-- What is on an output behind some lines. -/
def printed (lines : List String) : String :=
  lines.foldl (fun text line => text ++ line ++ "\n") ""

/-- Lines on standard error are printed one behind the other before the run goes on. -/
theorem performAll_printErr_append (o : Outcome) (result : Except Failure Unit)
    (lines : List String) (effects : List Effect) :
    o.performAll result (lines.map .printErr ++ effects) =
      performAll
        { o with stderr := lines.foldl (fun text line => text ++ line ++ "\n") o.stderr }
        result effects := by
  induction lines generalizing o with
  | nil => rfl
  | cons line rest ih => exact ih _

/-- So are lines on standard output. -/
theorem performAll_printOut_append (o : Outcome) (result : Except Failure Unit)
    (lines : List String) (effects : List Effect) :
    o.performAll result (lines.map .printOut ++ effects) =
      performAll
        { o with stdout := lines.foldl (fun text line => text ++ line ++ "\n") o.stdout }
        result effects := by
  induction lines generalizing o with
  | nil => rfl
  | cons line rest ih => exact ih _

/-- Lines on standard output are printed one behind the other. -/
theorem performAll_printOut (o : Outcome) (lines : List String) :
    o.performAll (.ok ()) (lines.map .printOut) =
      { o with stdout := lines.foldl (fun text line => text ++ line ++ "\n") o.stdout } := by
  have h := o.performAll_printOut_append (.ok ()) lines []
  rwa [List.append_nil] at h

theorem stderr_of_perform {effect : Effect} (h : o.perform effect = some o')
    (hquiet : ∀ line, effect ≠ .printErr line) : o'.stderr = o.stderr := by
  cases effect with
  | printOut line => exact Option.some.inj h ▸ rfl
  | printErr line => exact absurd rfl (hquiet line)
  | makeDirectory path =>
    obtain ⟨tree, -, rfl⟩ := Option.map_eq_some_iff.1 h
    rfl
  | writeFile path text =>
    obtain ⟨tree, -, rfl⟩ := Option.map_eq_some_iff.1 h
    rfl

/-- Effects that print nothing to standard error leave it alone unless one of them fails. -/
theorem stderr_performAll {effects : List Effect} (hexit : o.exitCode = 0)
    (hquiet : ∀ line, .printErr line ∉ effects) :
    (o.performAll (.ok ()) effects).stderr =
      if (o.performAll (.ok ()) effects).exitCode = 0 then o.stderr
      else o.stderr ++ Failure.io.render ++ "\n" := by
  induction effects generalizing o with
  | nil => rw [Outcome.performAll, if_pos hexit]
  | cons effect rest ih =>
    have hrest : ∀ line, .printErr line ∉ rest := fun line hline =>
      hquiet line (List.mem_cons_of_mem _ hline)
    rw [Outcome.performAll]
    cases hperform : o.perform effect with
    | none => rfl
    | some next =>
      have herr : next.stderr = o.stderr :=
        stderr_of_perform hperform fun line heq => hquiet line (heq ▸ List.mem_cons_self)
      rw [← herr]
      exact ih ((exitCode_of_perform hperform).trans hexit) hrest

end Outcome

/-! ### Units -/

/-- The path of the file of a unit. -/
def SourceUnit.path (directory : String) (u : SourceUnit) : String :=
  Path.join directory u.hintName

/-- The effects that write a unit into a directory. -/
def SourceUnit.writeEffects (directory : String) (u : SourceUnit) : List Effect :=
  [.writeFile (u.path directory) u.text,
   .printOut ("Generated " ++ u.typeName ++ " → " ++ u.path directory)]

theorem Command.unitEffects_some (directory : String) (units : List SourceUnit) :
    unitEffects (some directory) units =
      .makeDirectory directory :: units.flatMap (SourceUnit.writeEffects directory) := rfl

/-- Units are written in their order and nothing else is changed. -/
structure FileTree.Written (directory : String) (units : List SourceUnit) (t t' : FileTree) :
    Prop where
  directories : t'.directories = t.directories
  located : ∀ u ∈ units, (t.locate (u.path directory)).isSome = true
  /-- The last of the units at a place is what is read there. -/
  last : ∀ before u after, units = before ++ u :: after →
    (∀ v ∈ after, t.locate (v.path directory) ≠ t.locate (u.path directory)) →
    t'.read (u.path directory) = some u.text
  /-- At other places there is what there was. -/
  untouched : ∀ path, (∀ u ∈ units, t.locate (u.path directory) ≠ t.locate path) →
    t'.read path = t.read path

theorem FileTree.Written.cons {directory : String} {u : SourceUnit} {units : List SourceUnit}
    {t t' t'' : FileTree} (hwrite : t.write (u.path directory) u.text = some t')
    (h : Written directory units t' t'') : Written directory (u :: units) t t'' := by
  have hdirectories := directories_of_write hwrite
  have hlocate := locate_congr hdirectories
  obtain ⟨place, hplace, -⟩ := write_eq_some_iff.1 hwrite
  have hlocated := h.located
  have hlast := h.last
  have huntouched := h.untouched
  rw [hlocate] at hlocated hlast huntouched
  refine ⟨h.directories.trans hdirectories, ?_, ?_, ?_⟩
  · exact List.forall_mem_cons.2 ⟨by rw [hplace]; rfl, hlocated⟩
  · intro before v after hsplit hafter
    cases before with
    | nil =>
      -- the first unit stays if none of the others is written to its place
      obtain ⟨rfl, rfl⟩ := List.cons.inj hsplit
      rw [huntouched _ hafter, read_of_write hwrite]
    | cons x before =>
      obtain ⟨-, rfl⟩ := List.cons.inj hsplit
      exact hlast before v after rfl hafter
  · intro path hpath
    obtain ⟨hfirst, hrest⟩ := List.forall_mem_cons.1 hpath
    rw [huntouched path hrest, read_of_write_of_ne hwrite hfirst]

theorem Outcome.write_of_writeEffects {directory : String} {u : SourceUnit} {o o' : Outcome}
    (h : (u.writeEffects directory).foldlM perform o = some o') :
    o.tree.write (u.path directory) u.text = some o'.tree := by
  cases hwrite : o.tree.write (u.path directory) u.text with
  | none => simp [SourceUnit.writeEffects, perform, hwrite] at h
  | some t =>
    simp only [SourceUnit.writeEffects, List.foldlM_cons, perform, hwrite] at h
    obtain rfl := Option.some.inj h
    rfl

/-- The effects that write units do so. -/
theorem Outcome.written {directory : String} {units : List SourceUnit} {o o' : Outcome}
    (h : (units.flatMap (SourceUnit.writeEffects directory)).foldlM perform o = some o') :
    FileTree.Written directory units o.tree o'.tree := by
  induction units generalizing o with
  | nil =>
    obtain rfl : o = o' := Option.some.inj h
    exact ⟨rfl, List.forall_mem_nil _, by simp, fun _ _ => rfl⟩
  | cons u rest ih =>
    rw [List.flatMap_cons, List.foldlM_append, Option.bind_eq_bind, Option.bind_eq_some_iff] at h
    obtain ⟨next, hu, hrest⟩ := h
    exact (ih hrest).cons (write_of_writeEffects hu)

namespace FileTree.Written

variable {directory : String} {units : List SourceUnit} {t t' : FileTree}

/-- Units whose files are at one place have one hint name. -/
theorem hintName_eq (h : Written directory units t t')
    (hplain : ∀ u ∈ units, '/' ∉ u.hintName.toList) {u v : SourceUnit} (hu : u ∈ units)
    (hv : v ∈ units) (hplace : t.locate (u.path directory) = t.locate (v.path directory)) :
    u.hintName = v.hintName := by
  obtain ⟨place, hlocated⟩ := Option.isSome_iff_exists.1 (h.located v hv)
  have hu := getLast?_of_locate_join (hplain u hu) (hplace.trans hlocated)
  have hv := getLast?_of_locate_join (hplain v hv) hlocated
  exact Option.some.inj (hu.symm.trans hv)

/-- The last unit of a hint name is the one that its file holds. -/
theorem read_last (h : Written directory units t t')
    (hplain : ∀ u ∈ units, '/' ∉ u.hintName.toList) {before after : List SourceUnit}
    {u : SourceUnit} (hsplit : units = before ++ u :: after)
    (hafter : ∀ v ∈ after, v.hintName ≠ u.hintName) :
    t'.read (u.path directory) = some u.text := by
  have hmem : ∀ v ∈ u :: after, v ∈ units := fun v hv => hsplit ▸ List.mem_append_right before hv
  refine h.last before u after hsplit fun v hv hplace => ?_
  exact hafter v hv
    (h.hintName_eq hplain (hmem v (List.mem_cons_of_mem u hv)) (hmem u List.mem_cons_self) hplace)

/-- Units of distinct hint names have files of their own. -/
theorem read_of_nodup (h : Written directory units t t')
    (hplain : ∀ u ∈ units, '/' ∉ u.hintName.toList)
    (hnodup : (units.map SourceUnit.hintName).Nodup) {u : SourceUnit} (hu : u ∈ units) :
    t'.read (u.path directory) = some u.text := by
  obtain ⟨before, after, hsplit⟩ := List.append_of_mem hu
  refine h.read_last hplain hsplit fun v hv heq => ?_
  rw [hsplit, List.map_append, List.map_cons, List.nodup_append, List.nodup_cons] at hnodup
  exact hnodup.2.1.1 (heq ▸ List.mem_map_of_mem hv)

theorem nodup_places (h : Written directory units t t')
    (hplain : ∀ u ∈ units, '/' ∉ u.hintName.toList)
    (hnodup : (units.map SourceUnit.hintName).Nodup) :
    (units.map fun u => t'.locate (u.path directory)).Nodup := by
  rw [locate_congr h.directories]
  unfold List.Nodup at hnodup ⊢
  rw [List.pairwise_map] at hnodup ⊢
  exact hnodup.imp_of_mem fun hu hv hne hplace => hne (h.hintName_eq hplain hu hv hplace)

end FileTree.Written

end EnumAccessors
