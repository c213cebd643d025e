import Mathlib.Data.List.Nodup
import Mathlib.Data.List.Perm.Basic
import Mathlib.Data.List.TakeWhile
import Mathlib.Tactic.Tauto
import ModelForm.Files.Tree

/-!
Trees of directories and regular files. A tree is distinct if no directory has two entries of one
name; then the parts that lead to a file belong to this file only. Two trees are shuffled if they
differ in the order alone in which their directories list the entries: such trees have the same
files, and a path comes to shuffled nodes in them.
-/

namespace ModelForm

namespace Path

/-- A search for a dot stops at the first one. -/
theorem span_dot {front : List Char} (hfront : '.' ∉ front) (rest : List Char) :
    (front ++ '.' :: rest).takeWhile (· ≠ '.') = front ∧
      (front ++ '.' :: rest).dropWhile (· ≠ '.') = '.' :: rest := by
  have hpass : ∀ c ∈ front, decide (c ≠ '.') = true := by
    intro c hc
    simpa using ne_of_mem_of_not_mem hc hfront
  rw [List.takeWhile_append_of_pos hpass, List.dropWhile_append_of_pos hpass]
  simp

/-- The extension of a name stands behind its last dot, and something stands in front of it. -/
theorem extension?_eq_some_iff (name extension : String) :
    extension? name = some extension ↔
      ∃ stem, stem ≠ "" ∧ '.' ∉ extension.toList ∧ name = stem ++ "." ++ extension := by
  constructor
  · intro h
    by_cases hdot : '.' ∈ name.toList.reverse
    · obtain ⟨front, rest, hname, hfront⟩ := List.eq_append_cons_of_mem hdot
      obtain ⟨htake, hdrop⟩ := span_dot hfront rest
      simp only [extension?, hname, htake, hdrop] at h
      split at h
      · rename_i last others hrest
        obtain ⟨-, rfl⟩ := List.cons.inj hrest
        obtain rfl := Option.some.inj h
        refine ⟨String.ofList (last :: others).reverse, by simp, by simpa using hfront, ?_⟩
        apply String.toList_inj.mp
        rw [← List.reverse_reverse name.toList, hname]
        simp
      · simp at h
    · have hpass : ∀ c ∈ name.toList.reverse, decide (c ≠ '.') = true := by
        intro c hc
        simpa using ne_of_mem_of_not_mem hc hdot
      simp only [extension?, List.dropWhile_eq_nil_iff.mpr hpass] at h
      simp at h
  · rintro ⟨stem, hstem, hextension, rfl⟩
    have hne : stem.toList.reverse ≠ [] := by simpa using hstem
    obtain ⟨last, others, hlast⟩ := List.exists_cons_of_ne_nil hne
    have hreversed : (stem ++ "." ++ extension).toList.reverse =
        extension.toList.reverse ++ '.' :: last :: others := by simp [hlast]
    have hfree : '.' ∉ extension.toList.reverse := by simpa using hextension
    obtain ⟨htake, hdrop⟩ := span_dot hfree (last :: others)
    simp only [extension?, hreversed, htake, hdrop]
    simp

example : extension? ".json" = none ∧ extension? "a.b.json" = some "json" := by decide

/-- A name of an entry: one part of a path, and neither the directory itself nor the one above. -/
structure IsName (name : String) : Prop where
  ne_empty : name ≠ ""
  ne_here : name ≠ "."
  ne_above : name ≠ ".."
  noSlash : '/' ∉ name.toList

def below (path : String) (names : List String) : String :=
  names.foldl (fun path name => path ++ "/" ++ name) path

theorem pieces_append (separator : Char) (cs rest : List Char) :
    pieces separator (cs ++ separator :: rest) =
      pieces separator cs ++ pieces separator rest := by
  induction cs with
  | nil => simp [pieces]
  | cons c cs ih =>
    by_cases h : c = separator
    · simp [pieces, h, ih]
    · have hlength := length_pieces separator cs
      cases hp : pieces separator cs with
      | nil => simp [hp] at hlength
      | cons piece others => simp [pieces, h, ih, hp]

theorem pieces_of_notMem {separator : Char} {cs : List Char} (h : separator ∉ cs) :
    pieces separator cs = [cs] := by
  induction cs with
  | nil => rfl
  | cons c cs ih =>
    rw [List.mem_cons, not_or] at h
    obtain ⟨hc, hcs⟩ := h
    simp [pieces, Ne.symm hc, ih hcs]

theorem below_ne_empty {path : String} (hpath : path ≠ "") (names : List String) :
    below path names ≠ "" := by
  induction names generalizing path with
  | nil => exact hpath
  | cons name rest ih => exact @ih (path ++ "/" ++ name) (by simp)

theorem parts_below (path : String) {names : List String} (h : ∀ name ∈ names, IsName name) :
    parts (below path names) = parts path ++ names := by
  induction names generalizing path with
  | nil => simp [below]
  | cons name rest ih =>
    obtain ⟨hname, hrest⟩ := List.forall_mem_cons.mp h
    have hstep : parts (path ++ "/" ++ name) = parts path ++ [name] := by
      have hlist : (path ++ "/" ++ name).toList = path.toList ++ '/' :: name.toList := by simp
      simp [parts, hlist, pieces_append, pieces_of_notMem hname.noSlash]
    have hbelow : below path (name :: rest) = below (path ++ "/" ++ name) rest := rfl
    rw [hbelow, ih _ hrest, hstep, List.append_assoc, List.singleton_append]

theorem isAbsolute_below {path : String} (hpath : path ≠ "") (names : List String) :
    isAbsolute (below path names) = isAbsolute path := by
  induction names generalizing path with
  | nil => rfl
  | cons name rest ih =>
    have hne : path ++ "/" ++ name ≠ "" := by simp
    have hhead : (path ++ "/" ++ name).toList.head? = path.toList.head? := by
      obtain ⟨c, cs, hcs⟩ := List.exists_cons_of_ne_nil (mt String.toList_eq_nil_iff.mp hpath)
      simp [hcs]
    have hbelow : below path (name :: rest) = below (path ++ "/" ++ name) rest := rfl
    rw [hbelow, ih hne, isAbsolute, hhead, isAbsolute]

end Path

namespace FileTree

/-- Induction over trees: a property of all entries of a directory is one of the directory. -/
@[induction_eliminator]
theorem memberInduction {motive : FileTree → Prop}
    (file : ∀ node, isFile node = true → motive node)
    (directory : ∀ entries, (∀ e ∈ entries, motive e.2) → motive (.directory entries)) :
    ∀ tree, motive tree
  | .directory entries =>
    directory entries fun e he =>
      have hsize : sizeOf e.2 < sizeOf entries := by
        have hmember := List.sizeOf_lt_of_mem he
        have hpair : sizeOf e = 1 + sizeOf e.1 + sizeOf e.2 := rfl
        omega
      memberInduction file directory e.2
  | .file text => file (.file text) rfl
  | .garbled remains => file (.garbled remains) rfl
  | .locked => file .locked rfl
termination_by tree => sizeOf tree

/-- The node is a regular file of the tree, and these parts lead to it. -/
inductive HasFile : FileTree → List String → FileTree → Prop
  | here {node : FileTree} (h : node.isFile = true) : HasFile node [] node
  | under {entries : List (String × FileTree)} {name : String} {next node : FileTree}
      {path : List String} (h : (name, next) ∈ entries) (hnext : HasFile next path node) :
      HasFile (.directory entries) (name :: path) node

inductive Distinct : FileTree → Prop
  | file {node : FileTree} (h : node.isFile = true) : Distinct node
  | directory {entries : List (String × FileTree)} (h : (entries.map Prod.fst).Nodup)
      (hall : ∀ entry ∈ entries, Distinct entry.2) : Distinct (.directory entries)

/-- The trees differ in nothing but the order in which directories list their entries. -/
inductive Shuffled : FileTree → FileTree → Prop
  | same (node : FileTree) : Shuffled node node
  | listed {entries entries' : List (String × FileTree)} (h : entries.Perm entries') :
      Shuffled (.directory entries) (.directory entries')
  | inside {node node' : FileTree} (before after : List (String × FileTree)) (name : String)
      (h : Shuffled node node') :
      Shuffled (.directory (before ++ (name, node) :: after))
        (.directory (before ++ (name, node') :: after))
  | step {node node' node'' : FileTree} (h : Shuffled node node') (h' : Shuffled node' node'') :
      Shuffled node node''

theorem filesIn_eq_flatMap (entries : List (String × FileTree)) :
    filesIn entries =
      entries.flatMap fun entry => entry.2.files.map fun f => (entry.1 :: f.1, f.2) := by
  induction entries with
  | nil => rfl
  | cons entry rest ih => rw [filesIn, ih, List.flatMap_cons]

theorem files_of_isFile {node : FileTree} (h : node.isFile = true) : node.files = [([], node)] := by
  cases node with
  | directory entries => simp [isFile] at h
  | _ => rfl

theorem hasFile_of_mem (tree : FileTree) : ∀ f ∈ tree.files, tree.HasFile f.1 f.2 := by
  induction tree with
  | file node h =>
    intro f hf
    rw [files_of_isFile h] at hf
    obtain rfl := List.mem_singleton.mp hf
    exact .here h
  | directory entries ih =>
    intro f hf
    rw [files, filesIn_eq_flatMap] at hf
    obtain ⟨entry, hentry, hf⟩ := List.mem_flatMap.mp hf
    obtain ⟨g, hg, rfl⟩ := List.mem_map.mp hf
    exact .under hentry (ih entry hentry g hg)

theorem mem_files_iff (tree : FileTree) (path : List String) (node : FileTree) :
    (path, node) ∈ tree.files ↔ tree.HasFile path node := by
  refine ⟨hasFile_of_mem tree (path, node), fun h => ?_⟩
  induction h with
  | here h => simp [files_of_isFile h]
  | under h hnext ih =>
    rw [files, filesIn_eq_flatMap]
    exact List.mem_flatMap.mpr ⟨_, h, List.mem_map.mpr ⟨_, ih, rfl⟩⟩

section Distinct

theorem Distinct.of_mem {entries : List (String × FileTree)} (h : Distinct (.directory entries)) :
    (entries.map Prod.fst).Nodup ∧ ∀ entry ∈ entries, Distinct entry.2 := by
  cases h with
  | file h => simp [isFile] at h
  | directory h hall => exact ⟨h, hall⟩

/-- In a distinct tree the parts of a path belong to one file only. -/
theorem Distinct.nodup_paths {tree : FileTree} (h : tree.Distinct) :
    (tree.files.map Prod.fst).Nodup := by
  induction h with
  | file h => simp [files_of_isFile h]
  | directory h hall ih =>
    rw [files, filesIn_eq_flatMap, List.map_flatMap, List.nodup_flatMap]
    constructor
    · intro entry hentry
      have hmap : (entry.2.files.map fun f => (entry.1 :: f.1, f.2)).map Prod.fst =
          (entry.2.files.map Prod.fst).map (entry.1 :: ·) := by
        simp only [List.map_map, Function.comp_def]
      rw [hmap]
      exact (ih entry hentry).map List.cons_injective
    · -- paths below two entries start with different names
      refine (List.pairwise_map.mp h).imp ?_
      intro a b hab path ha hb
      simp only [List.map_map, List.mem_map, Function.comp_apply] at ha hb
      obtain ⟨f, -, rfl⟩ := ha
      obtain ⟨g, -, hg⟩ := hb
      exact hab (List.cons.inj hg).1.symm

theorem child?_eq_some_iff {entries : List (String × FileTree)}
    (h : (entries.map Prod.fst).Nodup) (name : String) (node : FileTree) :
    child? name entries = some node ↔ (name, node) ∈ entries := by
  induction entries with
  | nil => simp [child?]
  | cons entry rest ih =>
    obtain ⟨n, first⟩ := entry
    obtain ⟨hn, hrest⟩ := List.nodup_cons.mp h
    by_cases hname : n = name
    · subst hname
      have hfresh : (n, node) ∉ rest := fun hmem => hn (List.mem_map.mpr ⟨_, hmem, rfl⟩)
      simp [child?, hfresh, eq_comm]
    · simp [child?, hname, ih hrest, Ne.symm hname]

theorem child?_eq_none_iff (entries : List (String × FileTree)) (name : String) :
    child? name entries = none ↔ name ∉ entries.map Prod.fst := by
  induction entries with
  | nil => simp [child?]
  | cons entry rest ih =>
    by_cases hname : entry.1 = name
    · simp [child?, hname]
    · simp [child?, hname, ih, Ne.symm hname]

end Distinct

section Follow

/-- Further parts of a path start where the parts in front of them lead. -/
theorem follow_append {here node : FileTree} {above : List FileTree} {parts : List String}
    (h : here.follow above parts = .ok node) (rest : List String) :
    ∃ above', here.follow above (parts ++ rest) = node.follow above' rest := by
  induction parts generalizing here above with
  | nil =>
    obtain rfl := Except.ok.inj h
    exact ⟨above, rfl⟩
  | cons part parts ih =>
    rw [List.cons_append]
    cases here with
    | directory entries =>
      simp only [follow] at h ⊢
      split at h
      · rename_i hhere
        simpa [hhere] using ih h
      split at h
      · rename_i hhere habove
        simp only [hhere, habove, Bool.false_eq_true, if_true, if_false]
        cases above with
        | nil => exact ih h
        | cons parent above => exact ih h
      · rename_i hhere habove
        simp only [hhere, habove, Bool.false_eq_true, if_false]
        cases hchild : child? part entries with
        | none => simp [hchild] at h
        | some next =>
          rw [hchild] at h
          exact ih h
    | _ => simp [follow] at h

/-- The parts that lead to a file of a distinct tree are followed to it. -/
theorem HasFile.follow {tree node : FileTree} {path : List String} (h : tree.HasFile path node)
    (hd : tree.Distinct) (hnames : ∀ name ∈ path, Path.IsName name) (above : List FileTree) :
    tree.follow above path = .ok node := by
  induction h generalizing above with
  | here => rfl
  | @under entries name next node path h hnext ih =>
    obtain ⟨hdistinct, hall⟩ := hd.of_mem
    obtain ⟨hname, hpath⟩ := List.forall_mem_cons.mp hnames
    have hchild := (child?_eq_some_iff hdistinct name next).mpr h
    simp only [FileTree.follow, hchild]
    simp [hname.ne_empty, hname.ne_here, hname.ne_above, ih (hall _ h) hpath]

end Follow

namespace Shuffled

theorem hasFile {tree tree' : FileTree} (h : Shuffled tree tree') (path : List String)
    (node : FileTree) : tree.HasFile path node ↔ tree'.HasFile path node := by
  induction h generalizing path with
  | same => rfl
  | listed h =>
    constructor
    · rintro (h' | ⟨hmem, hnext⟩)
      · simp [isFile] at h'
      · exact .under (h.mem_iff.mp hmem) hnext
    · rintro (h' | ⟨hmem, hnext⟩)
      · simp [isFile] at h'
      · exact .under (h.mem_iff.mpr hmem) hnext
  | @inside inner inner' before after name h ih =>
    have hside : ∀ {m m' : FileTree} {entry : String × FileTree},
        entry ∈ before ++ (name, m) :: after → entry = (name, m) ∨
          entry ∈ before ++ (name, m') :: after := by
      intro m m' entry
      simp only [List.mem_append, List.mem_cons]
      tauto
    constructor
    · rintro (h' | ⟨hmem, hnext⟩)
      · simp [isFile] at h'
      · rcases hside hmem with heq | hmem
        · obtain ⟨rfl, rfl⟩ := Prod.mk.inj heq
          exact .under (by simp) ((ih _).mp hnext)
        · exact .under hmem hnext
    · rintro (h' | ⟨hmem, hnext⟩)
      · simp [isFile] at h'
      · rcases hside hmem with heq | hmem
        · obtain ⟨rfl, rfl⟩ := Prod.mk.inj heq
          exact .under (by simp) ((ih _).mpr hnext)
        · exact .under hmem hnext
  | step _ _ ih ih' => rw [ih, ih']

theorem symm {tree tree' : FileTree} (h : Shuffled tree tree') : Shuffled tree' tree := by
  induction h with
  | same node => exact .same node
  | listed h => exact .listed h.symm
  | inside before after name _ ih => exact .inside before after name ih
  | step _ _ ih ih' => exact .step ih' ih

theorem distinct {tree tree' : FileTree} (h : Shuffled tree tree') (hd : tree.Distinct) :
    tree'.Distinct := by
  induction h with
  | same => exact hd
  | listed h =>
    obtain ⟨hnames, hall⟩ := hd.of_mem
    exact .directory ((h.map Prod.fst).nodup_iff.mp hnames)
      fun entry hentry => hall entry (h.mem_iff.mpr hentry)
  | inside before after name h ih =>
    obtain ⟨hnames, hall⟩ := hd.of_mem
    refine .directory (by simpa using hnames) ?_
    have hinner := ih (hall (name, _) (by simp))
    intro entry hentry
    simp only [List.mem_append, List.mem_cons] at hentry
    rcases hentry with hentry | rfl | hentry
    · exact hall entry (by simp [hentry])
    · exact hinner
    · exact hall entry (by simp [hentry])
  | step _ _ ih ih' => exact ih' (ih hd)

/-- A regular file is not shuffled. -/
theorem eq_of_isFile {tree tree' : FileTree} (h : Shuffled tree tree') (hf : tree.isFile = true) :
    tree = tree' := by
  induction h with
  | same => rfl
  | listed | inside => simp [isFile] at hf
  | step h _ ih ih' =>
    obtain rfl := ih hf
    exact ih' hf

/-- Under a name where one of the trees has a node, the other has a shuffled one. -/
theorem exists_mem {tree tree' : FileTree} (h : Shuffled tree tree')
    {entries : List (String × FileTree)} (he : tree = .directory entries) :
    ∃ entries', tree' = .directory entries' ∧
      ∀ name next, (name, next) ∈ entries → ∃ next', (name, next') ∈ entries' ∧
        Shuffled next next' := by
  induction h generalizing entries with
  | same => exact ⟨entries, he, fun name next hmem => ⟨next, hmem, .same next⟩⟩
  | listed h =>
    obtain rfl := FileTree.directory.inj he
    exact ⟨_, rfl, fun name next hmem => ⟨next, h.mem_iff.mp hmem, .same next⟩⟩
  | inside before after name h ih =>
    obtain rfl := FileTree.directory.inj he
    refine ⟨_, rfl, fun other next hmem => ?_⟩
    simp only [List.mem_append, List.mem_cons, Prod.mk.injEq] at hmem
    rcases hmem with hmem | ⟨rfl, rfl⟩ | hmem
    · exact ⟨next, by simp [hmem], .same next⟩
    · exact ⟨_, by simp, h⟩
    · exact ⟨next, by simp [hmem], .same next⟩
  | step h _ ih ih' =>
    obtain ⟨middle, hmiddle, hto⟩ := ih he
    obtain ⟨entries', he', hfrom⟩ := ih' hmiddle
    refine ⟨entries', he', fun name next hmem => ?_⟩
    obtain ⟨next', hmem', hnext⟩ := hto name next hmem
    obtain ⟨next'', hmem'', hnext'⟩ := hfrom name next' hmem'
    exact ⟨next'', hmem'', .step hnext hnext'⟩

inductive Alike : Except FileProblem FileTree → Except FileProblem FileTree → Prop
  | error (e : FileProblem) : Alike (.error e) (.error e)
  | ok {node node' : FileTree} (h : Shuffled node node') (hd : node.Distinct) :
      Alike (.ok node) (.ok node')

/-- A path followed in shuffled trees. The induction is over the parts of the path, and the
directories above are shuffled as well. -/
theorem follow (parts : List String) {here here' : FileTree} {above above' : List FileTree}
    (h : Shuffled here here') (hd : here.Distinct) (habove : List.Forall₂ Shuffled above above')
    (hdabove : ∀ node ∈ above, node.Distinct) :
    Alike (here.follow above parts) (here'.follow above' parts) := by
  induction parts generalizing here here' above above' with
  | nil => exact .ok h hd
  | cons part rest ih =>
    by_cases hf : here.isFile = true
    · obtain rfl := h.eq_of_isFile hf
      cases here with
      | directory entries => simp [isFile] at hf
      | _ => exact .error .notADirectory
    · obtain ⟨entries, rfl⟩ : ∃ entries, here = .directory entries := by
        cases here with
        | directory entries => exact ⟨entries, rfl⟩
        | _ => simp [isFile] at hf
      obtain ⟨entries', rfl, hto⟩ := h.exists_mem rfl
      obtain ⟨hnames, hall⟩ := hd.of_mem
      obtain ⟨hnames', -⟩ := (h.distinct hd).of_mem
      simp only [FileTree.follow]
      split
      · exact ih h hd habove hdabove
      split
      · cases habove with
        | nil => exact ih h hd .nil (by simp)
        | cons hparent habove =>
          obtain ⟨hdparent, hdabove⟩ := List.forall_mem_cons.mp hdabove
          exact ih hparent hdparent habove hdabove
      · cases hchild : FileTree.child? part entries with
        | none =>
          have hchild' : FileTree.child? part entries' = none := by
            rw [child?_eq_none_iff] at hchild ⊢
            intro hmem
            obtain ⟨⟨name, next'⟩, hmem', rfl⟩ := List.mem_map.mp hmem
            obtain ⟨_, heq, hfrom⟩ := h.symm.exists_mem rfl
            obtain rfl := FileTree.directory.inj heq
            obtain ⟨next, hmem', -⟩ := hfrom name next' hmem'
            exact hchild (List.mem_map.mpr ⟨_, hmem', rfl⟩)
          rw [hchild']
          exact .error .notFound
        | some next =>
          have hmem := (child?_eq_some_iff hnames part next).mp hchild
          obtain ⟨next', hmem', hnext⟩ := hto part next hmem
          rw [(child?_eq_some_iff hnames' part next').mpr hmem']
          exact ih hnext (hall _ hmem) (.cons h habove)
            (List.forall_mem_cons.mpr ⟨hd, hdabove⟩)

end Shuffled

end FileTree

namespace Files

theorem partsOf_below (fs : Files) {path : String} (hpath : path ≠ "") {names : List String}
    (h : ∀ name ∈ names, Path.IsName name) :
    fs.partsOf (Path.below path names) = fs.partsOf path ++ names := by
  unfold partsOf
  rw [Path.isAbsolute_below hpath, Path.parts_below path h]
  split <;> simp

/-- What a directory has under a path of its own is found under the path joined to its own. -/
theorem find_below {fs : Files} {path : String} {tree node : FileTree} {names : List String}
    (htree : fs.find path = .ok tree) (hd : tree.Distinct) (hnode : tree.HasFile names node)
    (hnames : ∀ name ∈ names, Path.IsName name) :
    fs.find (Path.below path names) = .ok node := by
  have hpath : path ≠ "" := by
    rintro rfl
    simp [find] at htree
  have hfollow : fs.root.follow [] (fs.partsOf path) = .ok tree := by
    simpa [find, hpath] using htree
  obtain ⟨above, habove⟩ := FileTree.follow_append hfollow names
  have hbelow := Path.below_ne_empty hpath names
  simp [find, hbelow, partsOf_below fs hpath hnames, habove, hnode.follow hd hnames above]

end Files

end ModelForm
