import ModelForm.Model.Loading
import ModelForm.Proofs.Compiled
import ModelForm.Proofs.Insertions
import ModelForm.Proofs.Results

/-!
Models whose fields have different names. The check finds the first name that comes again, so it
lets exactly these models pass, and no other model is loaded from a text, a file or a directory.
For them the first field of a name is also the last one, so the compiled record has the names
of the fields in declared order, each with the schema of its field.
-/

namespace ModelForm

namespace Model

theorem firstRepeated_eq_none_iff (seen names : List String) :
    firstRepeated seen names = none ↔ (∀ n ∈ names, n ∉ seen) ∧ names.Nodup := by
  induction names generalizing seen with
  | nil => simp [firstRepeated]
  | cons name rest ih =>
    by_cases hseen : name ∈ seen
    · simp [firstRepeated, hseen]
    · have hstep : firstRepeated seen (name :: rest) = firstRepeated (name :: seen) rest := by
        simp [firstRepeated, hseen]
      rw [hstep, ih, List.nodup_cons, List.forall_mem_cons]
      constructor
      · rintro ⟨hrest, hnodup⟩
        have hname : name ∉ rest := fun hmem => hrest name hmem List.mem_cons_self
        exact ⟨⟨hseen, fun n hn hin => hrest n hn (List.mem_cons_of_mem _ hin)⟩, hname, hnodup⟩
      · rintro ⟨⟨-, hrest⟩, hname, hnodup⟩
        refine ⟨?_, hnodup⟩
        intro n hn hin
        rcases List.mem_cons.mp hin with rfl | hin
        · exact hname hn
        · exact hrest n hn hin

/-- The name that is found is the first one that was seen before, or that is in front of it. -/
theorem firstRepeated_eq_some_iff (seen names : List String) (n : String) :
    firstRepeated seen names = some n ↔ ∃ before after, names = before ++ n :: after ∧
      (∀ k ∈ before, k ∉ seen) ∧ before.Nodup ∧ (n ∈ seen ∨ n ∈ before) := by
  induction names generalizing seen with
  | nil => simp [firstRepeated]
  | cons name rest ih =>
    by_cases hseen : name ∈ seen
    · have hstep : firstRepeated seen (name :: rest) = some name := by simp [firstRepeated, hseen]
      rw [hstep]
      constructor
      · rintro ⟨⟩
        exact ⟨[], rest, rfl, by simp, List.nodup_nil, Or.inl hseen⟩
      · rintro ⟨before, after, hsplit, hfresh, -, -⟩
        cases before with
        | nil => exact congrArg some (List.cons.inj hsplit).1
        | cons k before =>
          -- the name would be one in front of the first that was seen
          obtain rfl : name = k := (List.cons.inj hsplit).1
          exact absurd hseen (hfresh name List.mem_cons_self)
    · have hstep : firstRepeated seen (name :: rest) = firstRepeated (name :: seen) rest := by
        simp [firstRepeated, hseen]
      rw [hstep, ih]
      constructor
      · rintro ⟨before, after, rfl, hfresh, hnodup, hn⟩
        refine ⟨name :: before, after, rfl, ?_, ?_, ?_⟩
        · intro k hk
          rcases List.mem_cons.mp hk with rfl | hk
          · exact hseen
          · exact fun hin => hfresh k hk (List.mem_cons_of_mem _ hin)
        · exact List.nodup_cons.mpr ⟨fun hin => hfresh name hin List.mem_cons_self, hnodup⟩
        · simp only [List.mem_cons] at hn ⊢
          tauto
      · rintro ⟨before, after, hsplit, hfresh, hnodup, hn⟩
        cases before with
        | nil =>
          obtain rfl : name = n := (List.cons.inj hsplit).1
          simp [hseen] at hn
        | cons k before =>
          obtain ⟨rfl, rfl⟩ := List.cons.inj hsplit
          obtain ⟨hname, hnodup⟩ := List.nodup_cons.mp hnodup
          refine ⟨before, after, rfl, ?_, hnodup, ?_⟩
          · intro k hk hin
            rcases List.mem_cons.mp hin with rfl | hin
            · exact hname hk
            · exact hfresh k (List.mem_cons_of_mem _ hk) hin
          · simp only [List.mem_cons] at hn ⊢
            tauto

section Unique

variable (m : Model)

theorem ensureUnique_eq_ok_iff : m.ensureUnique = .ok () ↔ m.fieldNames.Nodup := by
  have hiff := firstRepeated_eq_none_iff [] m.fieldNames
  simp only [List.not_mem_nil, not_false_eq_true, implies_true, true_and] at hiff
  rw [← hiff]
  unfold ensureUnique repeatedName?
  cases firstRepeated [] m.fieldNames <;> simp

/-- The field that is refused is the first one with the name of a field in front of it. -/
theorem ensureUnique_eq_error_iff (e : LoadError) : m.ensureUnique = .error e ↔
    ∃ before f after, m.fields = before ++ f :: after ∧ (before.map Field.name).Nodup ∧
      f.name ∈ before.map Field.name ∧ e = .repeatedField f.name m.name := by
  have hrepeated : m.ensureUnique = .error e ↔
      ∃ n, firstRepeated [] m.fieldNames = some n ∧ .repeatedField n m.name = e := by
    unfold ensureUnique repeatedName?
    cases firstRepeated [] m.fieldNames <;> simp
  simp only [hrepeated, firstRepeated_eq_some_iff, List.not_mem_nil, not_false_eq_true,
    implies_true, true_and, false_or]
  constructor
  · rintro ⟨n, ⟨before, after, hsplit, hnodup, hn⟩, rfl⟩
    obtain ⟨front, back, hfields, rfl, hback⟩ := List.map_eq_append_iff.mp hsplit
    obtain ⟨f, rest, rfl, rfl, -⟩ := List.map_eq_cons_iff.mp hback
    exact ⟨front, f, rest, hfields, hnodup, hn, rfl⟩
  · rintro ⟨before, f, after, hfields, hnodup, hf, rfl⟩
    refine ⟨f.name, ⟨before.map Field.name, after.map Field.name, ?_, hnodup, hf⟩, rfl⟩
    rw [fieldNames, hfields, List.map_append, List.map_cons]

end Unique

inductive Loaded (m : Model) : Prop
  | text (now : Instant) (text : String) (h : ofText now text = .ok m)
  | file (fs : Files) (now : Instant) (path : String) (h : ofFile fs now path = .ok m)
  | directory (fs : Files) (now : Instant) (path : String) (models : List Model)
      (h : ofDirectory fs now path = .ok models) (hm : m ∈ models)

theorem ensureUnique_of_ofText (now : Instant) (text : String) (m : Model)
    (h : ofText now text = .ok m) : m.ensureUnique = .ok () := by
  obtain ⟨read, -, h⟩ := exists_of_bind_eq_ok h
  obtain ⟨⟨⟩, hunique, h⟩ := exists_of_bind_eq_ok h
  obtain rfl : read = m := Except.ok.inj h
  exact hunique

/-- However a model is loaded, it is the model of some text. -/
theorem Loaded.exists_text (m : Model) (h : m.Loaded) : ∃ now text, ofText now text = .ok m := by
  cases h with
  | text now text h => exact ⟨now, text, h⟩
  | file fs now path h =>
    obtain ⟨text, -, h⟩ := exists_of_bind_eq_ok h
    exact ⟨now, text, h⟩
  | directory fs now path models h hm =>
    unfold ofDirectory at h
    cases htree : fs.directory? path with
    | none => simp [htree] at h
    | some tree =>
      rw [htree] at h
      obtain ⟨hlength, hall⟩ := List.forall₂_iff_get.mp ((mapM_eq_ok_iff _ _ _).mp h)
      obtain ⟨⟨i, hi⟩, rfl⟩ := List.get_of_mem hm
      obtain ⟨text, -, htext⟩ := exists_of_bind_eq_ok (hall i (hlength ▸ hi) hi)
      exact ⟨now, text, htext⟩

theorem Loaded.ensureUnique (m : Model) (h : m.Loaded) : m.ensureUnique = .ok () := by
  obtain ⟨now, text, htext⟩ := h.exists_text
  exact ensureUnique_of_ofText now text m htext

theorem Loaded.nodup_fieldNames (m : Model) (h : m.Loaded) : m.fieldNames.Nodup :=
  m.ensureUnique_eq_ok_iff.mp h.ensureUnique

theorem field?_eq_none_iff (m : Model) (name : String) :
    m.field? name = none ↔ name ∉ m.fieldNames := by
  simp [field?, fieldNames, List.find?_eq_none]

end Model

namespace Compiler

variable (c : Compiler) (m : Model) (hnames : m.fieldNames.Nodup)
include hnames

theorem names_compile : (c.compile m).names = m.fieldNames := by
  rw [compile_eq c m hnames]
  simp [Members.names, Model.fieldNames, Function.comp_def]

/-- The compiled record finds under a name what the model finds. -/
theorem get?_compile_of_nodup (name : String) :
    (c.compile m).get? name = (m.field? name).map c.compileField := by
  rw [compile_eq c m hnames, Members.get?_eq_lookup, Field.lookup_map]
  rfl

end Compiler

/-- A model passes the check exactly if no two of its fields have one name; otherwise it is refused
for the first field whose name is already that of a field in front of it. Every model that is
loaded passes. Of a model that passes, the compiled record has the names of the fields in declared
order, and under each name the schema of the field that the model finds there, if there is one. -/
theorem Model.ensureUnique_exact (m : Model) :
    (m.ensureUnique = .ok () ↔ m.fieldNames.Nodup) ∧
    (∀ e, m.ensureUnique = .error e ↔ ∃ before f after, m.fields = before ++ f :: after ∧
      (before.map Field.name).Nodup ∧ f.name ∈ before.map Field.name ∧
      e = .repeatedField f.name m.name) ∧
    (m.Loaded → m.ensureUnique = .ok ()) ∧
    (m.ensureUnique = .ok () → ∀ c : Compiler, (c.compile m).names = m.fieldNames ∧
      ∀ name, (c.compile m).get? name = (m.field? name).map c.compileField ∧
        (name ∉ m.fieldNames → m.field? name = none ∧ (c.compile m).get? name = none)) := by
  refine ⟨m.ensureUnique_eq_ok_iff, m.ensureUnique_eq_error_iff, Loaded.ensureUnique m, ?_⟩
  intro hunique c
  have hnames := m.ensureUnique_eq_ok_iff.mp hunique
  refine ⟨c.names_compile m hnames, fun name => ?_⟩
  have hget := c.get?_compile_of_nodup m hnames name
  refine ⟨hget, fun hname => ?_⟩
  have hnone := (m.field?_eq_none_iff name).mpr hname
  exact ⟨hnone, by rw [hget, hnone, Option.map_none]⟩

/-- The model of a text with one field passes. With another field and then one of the first name it
is refused for the last one, although the compiler would take it. -/
theorem Model.ensureUnique_exact_code :
    let text := "\x7b\"id\":\"c\",\"name\":\"C\",\"fields\":[" ++
      "\x7b\"name\":\"code\",\"type\":\x7b\"type\":\"number\"\x7d\x7d]\x7d"
    let m : Model :=
      { id := "c", name := "C", fields := [{ name := "code", type := { dataType := .number } }],
        createdAt := default }
    let c : Compiler := {}
    let twice := (m.addField (Field.ofType "note" { dataType := .text })).addField
      (Field.ofType "code" { dataType := .json })
    Model.ofText default text = .ok m ∧ m.ensureUnique = .ok () ∧ (c.compile m).names = ["code"] ∧
      (c.compile m).get? "code" = some (.optional (.number none)) ∧
      (c.compile m).get? "note" = none ∧
      twice.ensureUnique = .error (.repeatedField "code" "C") := by
  intro text m c twice
  have htext : Model.ofText default text = .ok m := by
    subst text m
    with_unfolding_all rfl
  obtain ⟨-, -, hloaded, hpasses⟩ := ensureUnique_exact m
  obtain ⟨-, herror, -, -⟩ := ensureUnique_exact twice
  have hunique : m.ensureUnique = .ok () := hloaded (.text default text htext)
  obtain ⟨hnames, hget⟩ := hpasses hunique c
  refine ⟨htext, hunique, hnames, (hget "code").1, ((hget "note").2 (by decide)).2, ?_⟩
  exact (herror _).mpr ⟨_, _, [], rfl, by decide, by decide, rfl⟩

end ModelForm
