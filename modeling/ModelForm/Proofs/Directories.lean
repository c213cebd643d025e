import Mathlib.Data.List.Lex
import Mathlib.Data.List.Sort
import Mathlib.Data.String.Basic
import ModelForm.Proofs.Trees
import ModelForm.Proofs.UniqueNames

/-!
Models of a directory. The loader takes every regular file with the extension json at any depth,
in ascending order of the paths, which are compared part by part. This order is strict, and the
files do not depend on how directories list their entries, so neither does what is loaded.
-/

namespace ModelForm.Model

/-- Paths are ordered as lists are, by the order of texts on their parts. -/
theorem pathLe_iff (as bs : List String) : pathLe as bs = true ↔ as ≤ bs := by
  rw [le_iff_lt_or_eq]
  induction as generalizing bs with
  | nil => cases bs <;> simp [pathLe]
  | cons a as ih =>
    cases bs with
    | nil => simp [pathLe]
    | cons b bs =>
      rw [pathLe, List.cons_lt_cons_iff]
      by_cases h : a = b
      · simp [h, ih]
      · simp [h]

theorem isModelPath_iff (path : List String) :
    isModelPath path = true ↔ ∃ folder stem, stem ≠ "" ∧ path = folder ++ [stem ++ ".json"] := by
  unfold isModelPath
  rw [beq_iff_eq, Option.bind_eq_some_iff]
  constructor
  · rintro ⟨name, hlast, hname⟩
    obtain ⟨folder, rfl⟩ := List.getLast?_eq_some_iff.mp hlast
    obtain ⟨stem, hstem, -, rfl⟩ := (Path.extension?_eq_some_iff name "json").mp hname
    exact ⟨folder, stem, hstem, by rw [String.append_assoc]; rfl⟩
  · rintro ⟨folder, stem, hstem, rfl⟩
    refine ⟨_, List.getLast?_concat, (Path.extension?_eq_some_iff _ _).mpr ⟨stem, hstem, ?_, ?_⟩⟩
    · decide
    · rw [String.append_assoc]
      rfl

section Candidates

variable (tree : FileTree)

theorem mem_filesIn_iff (path : List String) (node : FileTree) :
    (path, node) ∈ filesIn tree ↔ tree.HasFile path node ∧
      ∃ folder stem, stem ≠ "" ∧ path = folder ++ [stem ++ ".json"] := by
  rw [filesIn, List.mem_mergeSort, List.mem_filter, FileTree.mem_files_iff, isModelPath_iff]

/-- No path comes twice, so the paths ascend strictly. -/
theorem pairwise_filesIn (h : tree.Distinct) :
    ((filesIn tree).map Prod.fst).Pairwise (· < ·) := by
  have hsorted : ((filesIn tree).map Prod.fst).Pairwise (· ≤ ·) := by
    rw [List.pairwise_map]
    have hle := @List.pairwise_mergeSort _ (fun a b : List String × FileTree => pathLe a.1 b.1)
      (by simpa only [pathLe_iff] using fun a b c => le_trans)
      (by simpa only [Bool.or_eq_true, pathLe_iff] using
        fun (a b : List String × FileTree) => le_total a.1 b.1)
      (tree.files.filter fun f => isModelPath f.1)
    exact hle.imp fun hab => (pathLe_iff _ _).mp hab
  have hnodup : ((filesIn tree).map Prod.fst).Nodup := by
    have hperm := (List.mergeSort_perm (tree.files.filter fun f => isModelPath f.1)
      fun a b => pathLe a.1 b.1).map Prod.fst
    refine hperm.nodup_iff.mpr (h.nodup_paths.sublist ?_)
    exact List.filter_sublist.map Prod.fst
  exact hsorted.imp₂ (fun _ _ => lt_of_le_of_ne) hnodup

end Candidates

/-- Strictly ascending files are determined by which ones they are. -/
theorem eq_of_pairwise_lt {fs fs' : List (List String × FileTree)}
    (h : (fs.map Prod.fst).Pairwise (· < ·)) (h' : (fs'.map Prod.fst).Pairwise (· < ·))
    (hmem : ∀ f, f ∈ fs ↔ f ∈ fs') : fs = fs' := by
  rw [List.pairwise_map] at h h'
  have hne : ∀ {a b : List String × FileTree}, a.1 < b.1 → a ≠ b := by
    rintro a _ hlt rfl
    exact lt_irrefl _ hlt
  refine List.Perm.eq_of_pairwise ?_ h h' ?_
  · intro a b _ _ hab hba
    exact absurd hab (lt_asymm hba)
  · exact (List.perm_ext_iff_of_nodup (h.imp hne) (h'.imp hne)).mpr hmem

theorem filesIn_eq_of_shuffled {tree tree' : FileTree} (h : tree.Shuffled tree')
    (hd : tree.Distinct) : filesIn tree = filesIn tree' := by
  refine eq_of_pairwise_lt (pairwise_filesIn tree hd) (pairwise_filesIn tree' (h.distinct hd)) ?_
  rintro ⟨path, node⟩
  rw [mem_filesIn_iff, mem_filesIn_iff, h.hasFile]

def HeldBy (m : Model) (now : Instant) (node : FileTree) : Prop :=
  ∃ text, node = .file text ∧ (Model.shape now).ofText text = .ok m ∧ m.fieldNames.Nodup

/-- Why a file holds no model: it has no text, or the text is no model, or the model has a field
with the name of one in front of it. -/
inductive Fails (now : Instant) : FileTree → LoadError → Prop
  | file {node : FileTree} {problem : FileProblem} (h : node.text = .error problem) :
      Fails now node (.file problem)
  | unreadable {text : String} {e : ReadError} (h : (Model.shape now).ofText text = .error e) :
      Fails now (.file text) (.unreadable e)
  | repeated {text : String} {m : Model} {before after : List Field} {f : Field}
      (h : (Model.shape now).ofText text = .ok m) (hfields : m.fields = before ++ f :: after)
      (hbefore : (before.map Field.name).Nodup) (hf : f.name ∈ before.map Field.name) :
      Fails now (.file text) (.repeatedField f.name m.name)

section OneFile

variable (now : Instant)

theorem ofText_of_ok {text : String} {m : Model} (h : (Model.shape now).ofText text = .ok m) :
    ofText now text = m.ensureUnique.map fun _ => m := by
  unfold ofText
  rw [h]
  cases hunique : m.ensureUnique <;>
    simp [Except.mapError, Except.map, bind, Except.bind, pure, Except.pure, hunique]

theorem ofText_of_error {text : String} {e : ReadError}
    (h : (Model.shape now).ofText text = .error e) : ofText now text = .error (.unreadable e) := by
  rw [ofText, h]
  rfl

theorem ofNode_file (text : String) : ofNode now (.file text) = ofText now text := rfl

theorem ofNode_of_error {node : FileTree} {problem : FileProblem}
    (h : node.text = .error problem) : ofNode now node = .error (.file problem) := by
  rw [ofNode, h]
  rfl

theorem ofNode_eq_ok_iff (node : FileTree) (m : Model) :
    ofNode now node = .ok m ↔ m.HeldBy now node := by
  constructor
  · intro h
    cases node with
    | file text =>
      refine ⟨text, rfl, ?_⟩
      cases hread : (Model.shape now).ofText text with
      | error e => simp [ofNode_file, ofText_of_error now hread] at h
      | ok read =>
        rw [ofNode_file, ofText_of_ok now hread] at h
        cases hunique : read.ensureUnique with
        | error e => simp [hunique, Except.map] at h
        | ok _ =>
          obtain rfl : read = m := by simpa [hunique, Except.map] using h
          exact ⟨rfl, read.ensureUnique_eq_ok_iff.mp hunique⟩
    | _ => simp [ofNode, FileTree.text, Except.mapError, bind, Except.bind] at h
  · rintro ⟨text, rfl, hread, hnames⟩
    rw [ofNode_file, ofText_of_ok now hread, m.ensureUnique_eq_ok_iff.mpr hnames]
    rfl

theorem ofNode_eq_error_iff (node : FileTree) (e : LoadError) :
    ofNode now node = .error e ↔ Fails now node e := by
  constructor
  · intro h
    cases htext : node.text with
    | error problem =>
      rw [ofNode_of_error now htext] at h
      obtain rfl := Except.error.inj h
      exact .file htext
    | ok text =>
      obtain rfl : node = .file text := by
        cases node <;> simp_all [FileTree.text]
      cases hread : (Model.shape now).ofText text with
      | error r =>
        rw [ofNode_file, ofText_of_error now hread] at h
        obtain rfl := Except.error.inj h
        exact .unreadable hread
      | ok m =>
        rw [ofNode_file, ofText_of_ok now hread] at h
        cases hunique : m.ensureUnique with
        | ok _ => simp [hunique, Except.map] at h
        | error r =>
          obtain rfl : r = e := by simpa [hunique, Except.map] using h
          obtain ⟨before, f, after, hfields, hbefore, hf, rfl⟩ :=
            (m.ensureUnique_eq_error_iff r).mp hunique
          exact .repeated hread hfields hbefore hf
  · rintro (h | h | ⟨h, hfields, hbefore, hf⟩)
    · exact ofNode_of_error now h
    · exact ofText_of_error now h
    · rw [ofNode_file, ofText_of_ok now h,
        (ensureUnique_eq_error_iff _ _).mpr ⟨_, _, _, hfields, hbefore, hf, rfl⟩]
      rfl

/-- A file is loaded by its path as it is loaded where it is found. -/
theorem ofFile_eq_ofNode {fs : Files} {path : String} {node : FileTree}
    (h : fs.find path = .ok node) : ofFile fs now path = ofNode now node := by
  simp [ofFile, ofNode, Files.read, h, bind, Except.bind]

def FailsAt (fs : Files) (path : String) (e : LoadError) : Prop :=
  (∃ problem, fs.find path = .error problem ∧ e = .file problem) ∨
    ∃ node, fs.find path = .ok node ∧ Fails now node e

end OneFile

/-- Where a directory of distinct entries is found, a shuffled one is found in a shuffled tree. -/
theorem directory?_of_shuffled {fs other : Files} (hhere : other.here = fs.here)
    (h : fs.root.Shuffled other.root) (hd : fs.root.Distinct) (path : String) {tree : FileTree}
    (htree : fs.directory? path = some tree) :
    tree.Distinct ∧ ∃ tree', other.directory? path = some tree' ∧ tree.Shuffled tree' := by
  have hparts : other.partsOf path = fs.partsOf path := by simp [Files.partsOf, hhere]
  have hfollow := h.follow (fs.partsOf path) hd .nil (by simp)
  unfold Files.directory? Files.find at htree ⊢
  rw [hparts]
  by_cases hempty : path.isEmpty = true
  · simp [hempty] at htree
  simp only [hempty, Bool.false_eq_true, if_false] at htree ⊢
  generalize fs.root.follow [] (fs.partsOf path) = found at htree hfollow
  generalize other.root.follow [] (fs.partsOf path) = found' at hfollow ⊢
  cases hfollow with
  | error e => simp at htree
  | @ok node node' hnode hdnode =>
    cases node with
    | directory entries =>
      obtain rfl := Option.some.inj htree
      obtain ⟨entries', rfl, -⟩ := hnode.exists_mem rfl
      exact ⟨hdnode, _, rfl, hnode⟩
    | _ => simp at htree

theorem find_of_directory? {fs : Files} {path : String} {tree : FileTree}
    (h : fs.directory? path = some tree) : fs.find path = .ok tree := by
  unfold Files.directory? at h
  split at h
  · rename_i hfind
    rw [hfind, Option.some.inj h]
  · simp at h

theorem ofDirectory_eq {fs : Files} {path : String} {tree : FileTree}
    (htree : fs.directory? path = some tree) (now : Instant) :
    ofDirectory fs now path = (filesIn tree).mapM fun f => ofNode now f.2 := by
  simp [ofDirectory, htree]

/-- Of a directory with distinct entries the loader takes exactly the regular files at any depth
whose name is a text in front of `.json`, in strictly ascending order of their paths. It gives
models exactly if each of these files holds one, and then one model for each file in this order;
it fails exactly if one of them fails, with the error of the first one in this order. Each file is
loaded as by its path. In which order directories list their entries makes no difference. -/
theorem ofDirectory_exact (fs : Files) (now : Instant) (path : String) (tree : FileTree)
    (htree : fs.directory? path = some tree) (hd : fs.root.Distinct) :
    ∃ files : List (List String × FileTree),
      (∀ f, f ∈ files ↔ tree.HasFile f.1 f.2 ∧
        ∃ folder stem, stem ≠ "" ∧ f.1 = folder ++ [stem ++ ".json"]) ∧
      (files.map Prod.fst).Pairwise (· < ·) ∧
      (∀ models, ofDirectory fs now path = .ok models ↔
        List.Forall₂ (fun f m => m.HeldBy now f.2) files models) ∧
      (∀ e, ofDirectory fs now path = .error e ↔ ∃ before f after,
        files = before ++ f :: after ∧ (∀ g ∈ before, ∃ m : Model, m.HeldBy now g.2) ∧
          Fails now f.2 e) ∧
      (∀ f ∈ files, (∀ name ∈ f.1, Path.IsName name) →
        fs.find (Path.below path f.1) = .ok f.2 ∧
        (∀ m, ofFile fs now (Path.below path f.1) = .ok m ↔ m.HeldBy now f.2) ∧
        ∀ e, ofFile fs now (Path.below path f.1) = .error e ↔ Fails now f.2 e) ∧
      ∀ other : Files, other.here = fs.here → fs.root.Shuffled other.root →
        ofDirectory other now path = ofDirectory fs now path := by
  obtain ⟨hdtree, -⟩ := directory?_of_shuffled rfl (.same fs.root) hd path htree
  refine ⟨filesIn tree, fun f => mem_filesIn_iff tree f.1 f.2, pairwise_filesIn tree hdtree,
    ?_, ?_, ?_, ?_⟩
  · intro models
    simp only [ofDirectory_eq htree, mapM_eq_ok_iff, ofNode_eq_ok_iff]
  · intro e
    simp only [ofDirectory_eq htree, mapM_eq_error_iff, ofNode_eq_ok_iff, ofNode_eq_error_iff]
  · intro f hf hnames
    have hfile := ((mem_filesIn_iff tree f.1 f.2).mp hf).1
    have hfind := Files.find_below (find_of_directory? htree) hdtree hfile hnames
    rw [ofFile_eq_ofNode now hfind]
    exact ⟨hfind, ofNode_eq_ok_iff now f.2, ofNode_eq_error_iff now f.2⟩
  · intro other hhere hshuffled
    obtain ⟨-, tree', htree', htrees⟩ := directory?_of_shuffled hhere hshuffled hd path htree
    rw [ofDirectory_eq htree, ofDirectory_eq htree', filesIn_eq_of_shuffled htrees hdtree]

/-- The folder `a` comes before the file `a.json`, in whatever order they are listed, and a file
named `.json` is passed over. -/
theorem ofDirectory_exact_nested :
    let text := "\x7b\"id\":\"n\",\"name\":\"N\",\"fields\":[]\x7d"
    let m : Model := { id := "n", name := "N", fields := [], createdAt := default }
    let entries := [("a.json", FileTree.file text), (".json", .file "?"),
      ("a", .directory [("x.json", .file text)])]
    let fs : Files := { root := .directory [("m", .directory entries)], here := "/" }
    let other : Files := { root := .directory [("m", .directory entries.reverse)], here := "/" }
    filesIn (.directory entries) = [(["a", "x.json"], .file text), (["a.json"], .file text)] ∧
      ofDirectory fs default "m" = .ok [m, m] ∧ ofDirectory other default "m" = .ok [m, m] := by
  intro text m entries fs other
  have htree : fs.directory? "m" = some (.directory entries) := by
    subst fs entries text
    rfl
  have hd : fs.root.Distinct := by
    refine .directory (by decide) (List.forall_mem_singleton.mpr (.directory (by decide) ?_))
    simp only [entries, List.forall_mem_cons, List.not_mem_nil, false_imp_iff, implies_true,
      and_true]
    exact ⟨.file rfl, .file rfl, .directory (by decide) (List.forall_mem_singleton.mpr (.file rfl))⟩
  have hfiles : filesIn (.directory entries) =
      [(["a", "x.json"], .file text), (["a.json"], .file text)] := by
    have hfilter : (FileTree.directory entries).files.filter (fun f => isModelPath f.1) =
        [(["a.json"], .file text), (["a", "x.json"], .file text)] := by
      subst fs entries text
      rfl
    have horder : pathLe ["a.json"] ["a", "x.json"] = false := by decide
    rw [filesIn, hfilter]
    simp [List.mergeSort, horder]
  have hheld : m.HeldBy default (.file text) := by
    refine ⟨text, rfl, ?_, by decide⟩
    subst m text
    with_unfolding_all rfl
  obtain ⟨files, hmem, hpairwise, hok, -, -, hshuffled⟩ :=
    ofDirectory_exact fs default "m" _ htree hd
  obtain rfl : files = filesIn (.directory entries) := by
    refine eq_of_pairwise_lt hpairwise (pairwise_filesIn _ ?_) fun f => ?_
    · exact hd.of_mem.2 _ List.mem_cons_self
    · rw [hmem, mem_filesIn_iff]
  have hloads : ofDirectory fs default "m" = .ok [m, m] := by
    rw [hok, hfiles]
    exact .cons hheld (.cons hheld .nil)
  refine ⟨hfiles, hloads, ?_⟩
  rw [hshuffled other rfl (.inside [] [] "m" (.listed entries.reverse_perm.symm)), hloads]

end ModelForm.Model
