import Notebook.Note
import Notebook.Proofs.Folds

/-! # Merging notes -/

namespace Notebook

/-! ## Fields -/

theorem Double.same_comm (x y : Double) : x.same y = y.same x := by
  cases x <;> cases y <;> simp only [Double.same] <;> grind

theorem Field.same_comm (f g : Field) : f.same g = g.same f := by
  obtain ⟨name, value⟩ := f
  obtain ⟨name', value'⟩ := g
  cases value <;> cases value' <;> simp [Field.same, FieldValue.same, Double.same_comm, eq_comm]

theorem Double.same_trans {x y z : Double} (hxy : x.same y = true) (hyz : y.same z = true) : x.same z = true := by
  cases x <;> cases y <;> cases z <;> simp only [same] at * <;> grind

theorem Field.same_trans {f g h : Field} (hfg : f.same g = true) (hgh : g.same h = true) : f.same h = true := by
  obtain ⟨name, value⟩ := f
  obtain ⟨name', value'⟩ := g
  obtain ⟨name'', value''⟩ := h
  simp only [Field.same, Bool.and_eq_true, decide_eq_true_eq] at hfg hgh ⊢
  refine ⟨hfg.1.trans hgh.1, ?_⟩
  cases value <;> cases value' <;> cases value'' <;> simp only [FieldValue.same, Bool.false_eq_true,
    decide_eq_true_eq, and_false] at hfg hgh ⊢
  · exact Double.same_trans hfg.2 hgh.2
  · exact hfg.2.trans hgh.2

theorem Field.same_self {f : Field} (h : f.2 ≠ .number .nan) : f.same f = true := by
  obtain ⟨name, value⟩ := f
  cases value with
  | text t => simp [Field.same, FieldValue.same]
  | number x => cases x <;> simp_all [Field.same, FieldValue.same, Double.same]

/-! ## Notes as they are kept -/

namespace Note

/-- A note as it is read back once it is stored: without blank lines in front, with every tag and every
field once, and without a directive. -/
def normal (n : Note) : Note :=
  { path := n.path
    lines := linesOf n.text
    tags := n.tags.eraseDups
    fields := n.fields.eraseDupsBy Field.same
    directive := .insert }

/-- Equality with a NaN fails, and a NaN is not stored. -/
def HasNoNaN (n : Note) : Prop := ∀ f ∈ n.fields, f.2 ≠ .number .nan

instance (n : Note) : Decidable n.HasNoNaN :=
  inferInstanceAs (Decidable (∀ f ∈ n.fields, f.2 ≠ .number .nan))

theorem HasNoNaN.addField {n : Note} (hn : n.HasNoNaN) {f : Field} (hf : f.2 ≠ .number .nan) :
    (n.addField f).HasNoNaN := by
  unfold Note.addField
  split
  · exact hn
  · intro g hg
    rcases List.mem_append.1 hg with hg | hg
    · exact hn g hg
    · rw [List.mem_singleton.1 hg]
      exact hf

theorem addTo_eq : addTo = fun kept tag => if kept.any (tag == ·) then kept else kept ++ [tag] := by
  funext kept tag
  simp [addTo]

theorem foldl_addTo (tags : List Text) : tags.foldl addTo [] = tags.eraseDups := by
  rw [addTo_eq, foldl_keep]
  simp [List.eraseDups]

theorem foldl_addField (n : Note) (fields : List Field) :
    fields.foldl addField n = { n with
      fields := fields.foldl (fun kept f => if kept.any (f.same ·) then kept else kept ++ [f]) n.fields } := by
  induction fields generalizing n with
  | nil => rfl
  | cons f rest ih =>
    rw [List.foldl_cons, ih, List.foldl_cons, addField]
    simp only [Field.same_comm _ f]
    split <;> rfl

theorem foldl_addTag (n : Note) (tags : List Text) :
    tags.foldl addTag n = { n with
      tags := tags.foldl (fun kept tag => if tag.trim = [] then kept else addTo kept tag.trim) n.tags } := by
  induction tags generalizing n with
  | nil => rfl
  | cons tag rest ih =>
    rw [List.foldl_cons, ih, List.foldl_cons, addTag]
    split <;> rfl

theorem foldl_addTrimmed {tags : List Text} (h : ∀ tag ∈ tags, tag.trim = tag ∧ tag ≠ []) (kept : List Text) :
    tags.foldl (fun kept tag => if tag.trim = [] then kept else addTo kept tag.trim) kept = tags.foldl addTo kept := by
  induction tags generalizing kept with
  | nil => rfl
  | cons tag rest ih =>
    obtain ⟨htrim, hne⟩ := h tag (by simp)
    rw [List.foldl_cons, List.foldl_cons, htrim, if_neg hne]
    exact ih (fun other hother => h other (.tail _ hother)) _

def storeField (n : Note) (f : Field) : Note :=
  if f.2 = .number .nan then { n with tags := addTo n.tags f.1 } else n.addField f

/-- A note as it is read back once it is stored, whatever its fields. -/
def kept (n : Note) : Note :=
  n.fields.foldl storeField { (blank n.path).setText n.text with tags := n.tags.foldl addTo [] }

theorem foldl_storeField {fields : List Field} (h : ∀ f ∈ fields, f.2 ≠ .number .nan) (n : Note) :
    fields.foldl storeField n = fields.foldl addField n := by
  induction fields generalizing n with
  | nil => rfl
  | cons f rest ih =>
    rw [List.foldl_cons, List.foldl_cons, storeField, if_neg (h f (by simp))]
    exact ih (fun g hg => h g (by simp [hg])) _

theorem kept_eq_normal {n : Note} (h : n.HasNoNaN) : n.kept = n.normal := by
  rw [kept, foldl_storeField h, foldl_addField, foldl_addTo, foldl_keep]
  simp [normal, blank, setText]

theorem join_eq (n other : Note) :
    n.join other = { n with
      lines := mergedLines n.lines other.lines
      tags := other.tags.foldl (fun kept tag => if tag.trim = [] then kept else addTo kept tag.trim) n.tags
      fields := other.fields.foldl (fun kept f => if kept.any (f.same ·) then kept else kept ++ [f]) n.fields } := by
  rw [join, foldl_addField, foldl_addTag]

@[simp] theorem join_path (n other : Note) : (n.join other).path = n.path := by rw [join_eq]

@[simp] theorem join_directive (n other : Note) : (n.join other).directive = n.directive := by
  rw [join_eq]

theorem HasNoNaN.join {n other : Note} (hn : n.HasNoNaN) (ho : other.HasNoNaN) :
    (n.join other).HasNoNaN := by
  intro f hf
  rw [join_eq, foldl_keep] at hf
  rcases List.mem_append.1 hf with hf | hf
  · exact hn f hf
  · exact ho f (List.mem_filter.1 (mem_of_mem_eraseDupsBy hf)).1

theorem merge_eq_ok {n other : Note} (h : n.path = other.path) : n.merge other = .ok (n.join other) :=
  if_pos h

end Note

end Notebook
