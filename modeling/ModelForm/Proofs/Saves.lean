import ModelForm.Proofs.Trees

/-!
A tree before and after a file is written. At the place of the file there is its text; at every
other place there is what was there before. A path that settles at another place therefore comes to
the same file as before, to a directory as before, or to nothing as before.
-/

namespace ModelForm

namespace Path

def settledFrom (place names : List String) : List String :=
  names.foldl (fun done name =>
    if name.isEmpty || name == "." then done
    else if name == ".." then done.dropLast
    else done ++ [name]) place

theorem settled_eq (names : List String) : settled names = settledFrom [] names := rfl

def IsProper (part : String) : Prop :=
  part.isEmpty = false ∧ (part == ".") = false ∧ (part == "..") = false

theorem isProper_of_extension? {part extension : String} (h : extension? part = some extension)
    (hne : extension ≠ "") : IsProper part := by
  have hempty : extension? "" = none := by decide
  have hhere : extension? "." = none := by decide
  have habove : extension? ".." = some "" := by decide
  refine ⟨?_, ?_, ?_⟩
  all_goals
    by_contra hpart
    simp only [Bool.not_eq_false, String.isEmpty_iff, beq_iff_eq] at hpart
    subst hpart
  · simp [hempty] at h
  · simp [hhere] at h
  · exact hne (Option.some.inj (h.symm.trans habove))

theorem settledFrom_append (place names names' : List String) :
    settledFrom place (names ++ names') = settledFrom (settledFrom place names) names' :=
  List.foldl_append

theorem settledFrom_stay (place : List String) {part : String}
    (h : (part.isEmpty || part == ".") = true) (rest : List String) :
    settledFrom place (part :: rest) = settledFrom place rest := by
  simp only [settledFrom, List.foldl_cons, h, if_true]

theorem settledFrom_up (place : List String) {part : String}
    (hstay : ¬ (part.isEmpty || part == ".") = true) (h : (part == "..") = true)
    (rest : List String) :
    settledFrom place (part :: rest) = settledFrom place.dropLast rest := by
  simp only [settledFrom, List.foldl_cons, hstay, h, if_true, if_false, Bool.false_eq_true]

theorem settledFrom_enter (place : List String) {part : String}
    (hstay : ¬ (part.isEmpty || part == ".") = true) (h : ¬ (part == "..") = true)
    (rest : List String) :
    settledFrom place (part :: rest) = settledFrom (place ++ [part]) rest := by
  simp only [settledFrom, List.foldl_cons, hstay, h, if_false, Bool.false_eq_true]

theorem settledFrom_proper (place : List String) {part : String} (h : IsProper part) :
    settledFrom place [part] = place ++ [part] := by
  obtain ⟨hempty, hstay, hup⟩ := h
  simp only [settledFrom, List.foldl_cons, List.foldl_nil, hempty, hstay, hup, Bool.or_false,
    Bool.false_eq_true, if_false]

end Path

namespace FileTree

open ModelForm.Path (settledFrom)

def nodeAt? : FileTree → List String → Option FileTree
  | node, [] => some node
  | .directory entries, name :: rest => (child? name entries).bind fun next => next.nodeAt? rest
  | _, _ :: _ => none

theorem nodeAt?_append (tree : FileTree) (place place' : List String) :
    tree.nodeAt? (place ++ place') = (tree.nodeAt? place).bind fun node => node.nodeAt? place' := by
  induction place generalizing tree with
  | nil => simp [nodeAt?]
  | cons name rest ih =>
    cases tree with
    | directory entries => cases hchild : child? name entries <;> simp [nodeAt?, hchild, ih]
    | _ => simp [nodeAt?]

/-- A path from the root has come to a place, with the directories above it. -/
inductive Stands (root : FileTree) : List String → FileTree → List FileTree → Prop
  | root : Stands root [] root []
  | enter {place : List String} {entries : List (String × FileTree)} {above : List FileTree}
      {name : String} {next : FileTree} (h : Stands root place (.directory entries) above)
      (hnext : child? name entries = some next) :
      Stands root (place ++ [name]) next (.directory entries :: above)

namespace Stands

variable {root here : FileTree} {place : List String} {above : List FileTree}

theorem nodeAt?_eq (h : Stands root place here above) : root.nodeAt? place = some here := by
  induction h with
  | root => rfl
  | enter _ hnext ih => simp [nodeAt?_append, ih, nodeAt?, hnext]

/-- Nothing is above the root only. -/
theorem above_eq_nil_iff (h : Stands root place here above) : above = [] ↔ place = [] := by
  cases h <;> simp

/-- The directory above is at the place above. -/
theorem up {parent : FileTree} (h : Stands root place here (parent :: above)) :
    Stands root place.dropLast parent above ∧ ∃ entries, parent = .directory entries := by
  cases h with
  | enter h hnext => exact ⟨by simpa using h, _, rfl⟩

/-- Where a path leads, and how it goes on from there. -/
theorem of_follow {node : FileTree} {parts : List String} (h : Stands root place here above)
    (hfollow : here.follow above parts = .ok node) :
    ∃ above', Stands root (settledFrom place parts) node above' ∧
      ∀ rest, here.follow above (parts ++ rest) = node.follow above' rest := by
  induction parts generalizing place here above with
  | nil =>
    obtain rfl := Except.ok.inj hfollow
    exact ⟨above, h, fun rest => rfl⟩
  | cons part parts ih =>
    cases here with
    | directory entries =>
      simp only [follow, List.cons_append] at hfollow ⊢
      split at hfollow
      · rename_i hstay
        simp only [hstay, if_true, Path.settledFrom_stay place hstay]
        exact ih h hfollow
      split at hfollow
      · rename_i hstay hup
        simp only [hstay, hup, if_true, if_false, Bool.false_eq_true,
          Path.settledFrom_up place hstay hup]
        cases above with
        | nil =>
          have hplace : place = [] := h.above_eq_nil_iff.mp rfl
          subst hplace
          exact ih h hfollow
        | cons parent above => exact ih h.up.1 hfollow
      · rename_i hstay hup
        simp only [hstay, hup, if_false, Bool.false_eq_true, Path.settledFrom_enter place hstay hup]
        cases hchild : child? part entries with
        | none => simp [hchild] at hfollow
        | some next =>
          rw [hchild] at hfollow
          exact ih (h.enter hchild) hfollow
    | _ => simp [follow] at hfollow

/-- The same for a path from the root. -/
theorem of_follow_root {node : FileTree} {parts : List String}
    (hfollow : root.follow [] parts = .ok node) :
    ∃ above, Stands root (Path.settled parts) node above ∧
      ∀ rest, root.follow [] (parts ++ rest) = node.follow above rest :=
  Stands.root.of_follow hfollow

end Stands

inductive Alike : FileTree → FileTree → Prop
  | directories (entries entries' : List (String × FileTree)) :
      Alike (.directory entries) (.directory entries')
  | file {node : FileTree} (h : node.isFile = true) : Alike node node

theorem Alike.refl (node : FileTree) : Alike node node := by
  cases node with
  | directory entries => exact .directories entries entries
  | _ => exact .file rfl

inductive SameEnd : Except FileProblem FileTree → Except FileProblem FileTree → Prop
  | failed (e e' : FileProblem) : SameEnd (.error e) (.error e')
  | found {node node' : FileTree} (h : Alike node node') : SameEnd (.ok node) (.ok node')

/-- The second tree is the first after a text is written at a place. -/
structure Written (tree tree' : FileTree) (target : List String) (text : String) : Prop where
  file : tree'.nodeAt? target = some (.file text)
  noDirectory : ∀ entries, tree.nodeAt? target ≠ some (.directory entries)
  elsewhere : ∀ place, place ≠ target →
    Option.Rel Alike (tree.nodeAt? place) (tree'.nodeAt? place)

theorem child?_replaced (entries : List (String × FileTree)) (name : String) (node : FileTree)
    (other : String) : child? other (entries.filter (·.1 ≠ name) ++ [(name, node)]) =
      if other = name then some node else child? other entries := by
  induction entries with
  | nil =>
    by_cases h : other = name
    · simp [child?, h]
    · simp [child?, h, Ne.symm h]
  | cons entry entries ih =>
    obtain ⟨n, first⟩ := entry
    by_cases hn : n = name
    · subst hn
      rw [List.filter_cons_of_neg (by simp), ih]
      by_cases h : other = n
      · simp [h]
      · simp [child?, h, Ne.symm h]
    · rw [List.filter_cons_of_pos (by simpa using hn), List.cons_append, child?, ih]
      by_cases h : n = other
      · subst h
        simp [child?, hn]
      · simp [child?, h]

theorem optionRel_alike_refl (node : Option FileTree) : Option.Rel Alike node node := by
  cases node with
  | none => exact .none
  | some node => exact .some (.refl node)

namespace Written

theorem inDirectory {entries : List (String × FileTree)} {name text : String}
    (h : ∀ inner, child? name entries ≠ some (.directory inner)) :
    Written (.directory entries)
      (.directory (entries.filter (·.1 ≠ name) ++ [(name, .file text)])) [name] text where
  file := by simp only [nodeAt?, child?_replaced, if_true, Option.bind_some]
  noDirectory inner := by
    have hinner := h inner
    cases hchild : child? name entries <;> simp_all [nodeAt?]
  elsewhere place hplace := by
    cases place with
    | nil => exact .some (.directories _ _)
    | cons other rest =>
      simp only [nodeAt?, child?_replaced]
      by_cases hother : other = name
      · subst hother
        have hrest : rest ≠ [] := fun hrest => hplace (by rw [hrest])
        obtain ⟨deeper, rest, rfl⟩ := List.exists_cons_of_ne_nil hrest
        -- neither the old file nor the new one has anything below it
        have hold : ((child? other entries).bind fun next => next.nodeAt? (deeper :: rest)) =
            none := by
          cases hchild : child? other entries with
          | none => rfl
          | some next =>
            cases next with
            | directory inner => exact absurd hchild (h inner)
            | _ => rfl
        simp only [hold, if_true, Option.bind_some, nodeAt?]
        exact .none
      · rw [if_neg hother]
        exact optionRel_alike_refl _

theorem under {entries : List (String × FileTree)} {name text : String} {next next' : FileTree}
    {target : List String} (hnext : child? name entries = some next)
    (h : Written next next' target text) :
    Written (.directory entries)
      (.directory (entries.filter (·.1 ≠ name) ++ [(name, next')])) (name :: target) text where
  file := by simpa only [nodeAt?, child?_replaced, if_true, Option.bind_some] using h.file
  noDirectory inner := by simpa [nodeAt?, hnext] using h.noDirectory inner
  elsewhere place hplace := by
    cases place with
    | nil => exact .some (.directories _ _)
    | cons other rest =>
      simp only [nodeAt?, child?_replaced]
      by_cases hother : other = name
      · subst hother
        simpa [hnext] using h.elsewhere rest fun hrest => hplace (by rw [hrest])
      · rw [if_neg hother]
        exact optionRel_alike_refl _

/-- A text that is grafted into a directory, and not over another directory, is written. -/
theorem graft (tree : FileTree) (front : List String) (name text : String)
    {entries : List (String × FileTree)} (hfront : tree.nodeAt? front = some (.directory entries))
    (h : ∀ inner, child? name entries ≠ some (.directory inner)) :
    Written tree (graft (.file text) (front ++ [name]) (some tree)) (front ++ [name]) text := by
  induction front generalizing tree with
  | nil =>
    obtain rfl := Option.some.inj hfront
    exact inDirectory h
  | cons part front ih =>
    cases tree with
    | directory outer =>
      cases hchild : child? part outer with
      | none => simp [nodeAt?, hchild] at hfront
      | some next =>
        simp only [List.cons_append, FileTree.graft, hchild]
        exact under hchild (ih next (by simpa [nodeAt?, hchild] using hfront))
    | _ => simp [nodeAt?] at hfront

variable {root root' here here' : FileTree} {place target parts : List String}
  {above above' : List FileTree} {text : String}

theorem alike (hw : Written root root' target text) (h : Stands root place here above)
    (h' : Stands root' place here' above') (hplace : place ≠ target) : Alike here here' := by
  have helsewhere := hw.elsewhere place hplace
  rw [h.nodeAt?_eq, h'.nodeAt?_eq] at helsewhere
  cases helsewhere with
  | some halike => exact halike

/-- A path that does not lead to the target ends as it did before. -/
theorem follow (hw : Written root root' target text) (h : Stands root place here above)
    (h' : Stands root' place here' above') (hplace : place ≠ target)
    (htarget : settledFrom place parts ≠ target) :
    SameEnd (here.follow above parts) (here'.follow above' parts) := by
  induction parts generalizing place here here' above above' with
  | nil => exact .found (hw.alike h h' hplace)
  | cons part rest ih =>
    have halike := hw.alike h h' hplace
    cases halike with
    | file hfile =>
      cases here with
      | directory entries => simp [isFile] at hfile
      | _ => exact .failed _ _
    | directories entries entries' =>
      simp only [FileTree.follow]
      split
      · rename_i hstay
        exact ih h h' hplace (Path.settledFrom_stay place hstay rest ▸ htarget)
      split
      · rename_i hstay hup
        rw [Path.settledFrom_up place hstay hup] at htarget
        cases above with
        | nil =>
          obtain rfl := h.above_eq_nil_iff.mp rfl
          obtain rfl := h'.above_eq_nil_iff.mpr rfl
          exact ih h h' hplace htarget
        | cons parent above =>
          cases above' with
          | nil =>
            obtain rfl := h'.above_eq_nil_iff.mp rfl
            exact absurd (h.above_eq_nil_iff.mpr rfl) (List.cons_ne_nil _ _)
          | cons parent' above' =>
            obtain ⟨hparent, inner, rfl⟩ := h.up
            have hne : place.dropLast ≠ target := fun heq =>
              hw.noDirectory inner (heq ▸ hparent.nodeAt?_eq)
            exact ih hparent h'.up.1 hne htarget
      · rename_i hstay hup
        rw [Path.settledFrom_enter place hstay hup] at htarget
        have hold : root.nodeAt? (place ++ [part]) = child? part entries := by
          simp [nodeAt?_append, h.nodeAt?_eq, nodeAt?]
        have hnew : root'.nodeAt? (place ++ [part]) = child? part entries' := by
          simp [nodeAt?_append, h'.nodeAt?_eq, nodeAt?]
        by_cases hreached : place ++ [part] = target
        · -- the path goes on below a file, before and after
          rw [hreached] at hold hnew htarget
          have hrest : rest ≠ [] := fun hrest => htarget (by rw [hrest]; rfl)
          obtain ⟨deeper, rest, rfl⟩ := List.exists_cons_of_ne_nil hrest
          rw [hw.file] at hnew
          rw [← hnew]
          cases hchild : child? part entries with
          | none => exact .failed _ _
          | some next =>
            cases next with
            | directory inner => exact absurd (hold.trans hchild) (hw.noDirectory inner)
            | _ => exact .failed _ _
        · have helsewhere := hw.elsewhere _ hreached
          rw [hold, hnew] at helsewhere
          generalize hchild : child? part entries = next at helsewhere
          generalize hchild' : child? part entries' = next' at helsewhere
          cases helsewhere with
          | none => exact .failed _ _
          | some _ => exact ih (h.enter hchild) (h'.enter hchild') hreached htarget

theorem follow_root (hw : Written root root' target text) (hne : target ≠ [])
    (htarget : Path.settled parts ≠ target) :
    SameEnd (root.follow [] parts) (root'.follow [] parts) :=
  hw.follow .root .root hne.symm htarget

/-- A path to a directory leads to a directory. -/
theorem exists_directory (hw : Written root root' target text) (hne : target ≠ [])
    (htarget : Path.settled parts ≠ target) {entries : List (String × FileTree)}
    (hparts : root.follow [] parts = .ok (.directory entries)) :
    ∃ entries', root'.follow [] parts = .ok (.directory entries') := by
  have hsame := hw.follow_root hne htarget
  rw [hparts] at hsame
  generalize root'.follow [] parts = found at hsame
  cases hsame with
  | found halike =>
    cases halike with
    | directories entries entries' => exact ⟨entries', rfl⟩
    | file hfile => simp [isFile] at hfile

end Written

end FileTree

namespace Files

open FileTree (SameEnd Written Stands Alike child?)

variable {fs fs' : Files} {path text : String}

structure Saved (fs fs' : Files) (path text : String) : Prop where
  here : fs'.here = fs.here
  place_ne_nil : Path.settled (fs.partsOf path) ≠ []
  root : Written fs.root fs'.root (Path.settled (fs.partsOf path)) text
  find : fs'.find path = .ok (.file text)

/-- The last part of a path is the last one from the root. -/
theorem partsOf_eq_append (fs : Files) (path : String) :
    ∃ front last, fs.partsOf path = front ++ [last] ∧ (Path.parts path).getLast? = some last := by
  have hne : Path.parts path ≠ [] := by
    intro h
    have hlength := congrArg List.length h
    simp [Path.parts, Path.length_pieces] at hlength
  obtain ⟨front, last, hlast⟩ := (List.eq_nil_or_concat' _).resolve_left hne
  unfold partsOf
  split
  · exact ⟨front, last, hlast, by simp [hlast]⟩
  · exact ⟨Path.parts fs.here ++ front, last, by simp [hlast], by simp [hlast]⟩

/-- A text is saved in a directory, and not over another directory. -/
theorem eq_write_of_save {front : List String} {last : String}
    (hparts : fs.partsOf path = front ++ [last]) (hlast : Path.IsProper last)
    (h : fs.save path text = .ok fs') :
    path.isEmpty = false ∧ fs' = fs.write path text ∧
      ∃ entries, fs.root.follow [] front = .ok (.directory entries) ∧
        ∀ inner, child? last entries ≠ some (.directory inner) := by
  obtain ⟨hempty, hhere, habove⟩ := hlast
  have hnamed : ((fs.partsOf path).reverse.dropWhile String.isEmpty).reverse = front ++ [last] := by
    simp [hparts, hempty]
  simp only [save, hnamed, List.dropLast_concat, List.getLastD_concat, hhere, habove] at h
  split at h
  · simp at h
  rename_i hpath
  refine ⟨by simpa using hpath, ?_⟩
  split at h
  · simp at h
  · rename_i entries hfront
    simp only [hparts, Bool.or_self, lt_irrefl, decide_false, Bool.false_eq_true, if_false] at h
    split at h
    · simp at h
    · simp at h
    · rename_i hdirectory _
      exact ⟨(Except.ok.inj h).symm, entries, hfront, hdirectory⟩
  · simp at h

theorem saved_of_save {extension : String} (h : fs.save path text = .ok fs')
    (hextension : Path.lastExtension? path = some extension) (hne : extension ≠ "") :
    Saved fs fs' path text := by
  obtain ⟨front, last, hparts, hlast⟩ := fs.partsOf_eq_append path
  have hproper : Path.IsProper last := by
    rw [Path.lastExtension?, hlast] at hextension
    exact Path.isProper_of_extension? hextension hne
  obtain ⟨hpath, rfl, entries, hfront, hover⟩ := eq_write_of_save hparts hproper h
  have hsettled : Path.settled (fs.partsOf path) = Path.settled front ++ [last] := by
    rw [hparts, Path.settled_eq, Path.settledFrom_append, Path.settledFrom_proper _ hproper,
      Path.settled_eq]
  have hne_nil : Path.settled (fs.partsOf path) ≠ [] := by simp [hsettled]
  obtain ⟨above, hstands, -⟩ := Stands.of_follow_root hfront
  have hroot : Written fs.root (fs.write path text).root (Path.settled (fs.partsOf path)) text := by
    simp only [write, put, hsettled]
    exact Written.graft fs.root _ last text hstands.nodeAt?_eq hover
  refine ⟨rfl, hne_nil, hroot, ?_⟩
  -- the directory of the file is still there, and the file is in it
  obtain ⟨entries', hfront'⟩ := hroot.exists_directory hne_nil (by simp [hsettled]) hfront
  obtain ⟨above', hstands', hrest⟩ := Stands.of_follow_root hfront'
  have hchild : child? last entries' = some (.file text) := by
    have hfile := hroot.file
    rw [hsettled, FileTree.nodeAt?_append, hstands'.nodeAt?_eq] at hfile
    simpa [FileTree.nodeAt?] using hfile
  obtain ⟨hempty, hhere, habove⟩ := hproper
  have hparts' : (fs.write path text).partsOf path = front ++ [last] := hparts
  simp only [find, hpath, hparts', hrest, FileTree.follow, hempty, hhere, habove, hchild,
    Bool.or_self, Bool.false_eq_true, if_false]

structure SameFile (fs fs' : Files) (path : String) : Prop where
  isFile : fs'.isFile path = fs.isFile path
  contains : fs'.contains path = fs.contains path
  remains : (fs'.readRemains path).toOption = (fs.readRemains path).toOption

/-- Saving changes no file at another place. -/
theorem Saved.sameFile (h : Saved fs fs' path text) {other : String}
    (hother : Path.settled (fs.partsOf other) ≠ Path.settled (fs.partsOf path)) :
    SameFile fs fs' other := by
  have hend : SameEnd (fs.find other) (fs'.find other) := by
    have hparts : fs'.partsOf other = fs.partsOf other := by simp only [partsOf, h.here]
    unfold Files.find
    rw [hparts]
    split
    · exact .failed _ _
    · exact h.root.follow_root h.place_ne_nil hother
  constructor
  all_goals
    simp only [Files.isFile, Files.contains, readRemains]
    generalize fs.find other = found at hend
    generalize fs'.find other = found' at hend
    cases hend with
    | failed e e' => rfl
    | found halike => cases halike <;> rfl

end Files

end ModelForm
