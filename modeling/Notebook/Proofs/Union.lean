import Mathlib.Tactic.MkIffOfInductiveProp
import Notebook.Proofs.Merging

/-! # Merging as a union

A note that is merged with another keeps what it has, in front and in order, and gets from the other only what it
has not.
-/

namespace Notebook

/-! ## Lists -/

section

variable {α : Type} {r : α → α → Bool} {kept l m : List α}

/-- The items of a list, and after them those of another that repeat none of them. -/
def unionBy (r : α → α → Bool) (kept l : List α) : List α := kept ++ l.filter fun x => !kept.any (r x)

theorem foldl_keep_eq_unionBy (h : l.Pairwise fun a b => r b a = false) :
    l.foldl (fun kept x => if kept.any (r x) then kept else kept ++ [x]) kept = unionBy r kept l := by
  rw [foldl_keep, eraseDupsBy_eq_self (h.filter _), unionBy]

theorem unionBy_eq_append : ∃ added, unionBy r kept l = kept ++ added ∧ added.Sublist l :=
  ⟨_, rfl, List.filter_sublist⟩

theorem mem_unionBy {x : α} (h : x ∈ unionBy r kept l) : x ∈ kept ∨ x ∈ l := by
  rcases List.mem_append.1 h with h | h
  · exact .inl h
  · exact .inr (List.mem_filter.1 h).1

theorem pairwise_unionBy (hkept : kept.Pairwise fun a b => r b a = false) (hl : l.Pairwise fun a b => r b a = false) :
    (unionBy r kept l).Pairwise fun a b => r b a = false := by
  refine List.pairwise_append.2 ⟨hkept, hl.filter _, fun a ha b hb => ?_⟩
  have hnew : kept.any (r b) = false := by simpa using (List.mem_filter.1 hb).2
  exact Bool.eq_false_iff.2 fun hab => Bool.eq_false_iff.1 hnew (List.any_eq_true.2 ⟨a, ha, hab⟩)

theorem unionBy_self (hrefl : ∀ x ∈ l, r x x = true) : unionBy r l l = l := by
  rw [unionBy, filter_new_self hrefl, List.append_nil]

variable (htrans : ∀ x y z, r x y = true → r y z = true → r x z = true)

include htrans

theorem any_unionBy (x : α) : (unionBy r kept l).any (r x) = (kept.any (r x) || l.any (r x)) := by
  rw [Bool.eq_iff_iff, unionBy, List.any_append]
  simp only [Bool.or_eq_true, List.any_eq_true]
  constructor
  · rintro (h | ⟨y, hy, hxy⟩)
    · exact .inl h
    · exact .inr ⟨y, (List.mem_filter.1 hy).1, hxy⟩
  · rintro (h | ⟨y, hy, hxy⟩)
    · exact .inl h
    · -- What was left out repeats something that is kept, and then so does what equals it.
      by_cases hnew : kept.any (r y) = true
      · obtain ⟨z, hz, hyz⟩ := List.any_eq_true.1 hnew
        exact .inl ⟨z, hz, htrans x y z hxy hyz⟩
      · exact .inr ⟨y, List.mem_filter.2 ⟨hy, by simpa using hnew⟩, hxy⟩

theorem unionBy_assoc : unionBy r (unionBy r kept l) m = unionBy r kept (unionBy r l m) := by
  have hlast : m.filter (fun x => !(unionBy r kept l).any (r x)) =
      (m.filter fun x => !l.any (r x)).filter fun x => !kept.any (r x) := by
    rw [List.filter_filter]
    congr
    funext x
    rw [any_unionBy htrans, Bool.not_or]
  rw [unionBy, hlast, unionBy, unionBy, unionBy, List.filter_append, List.append_assoc]

end

/-! ## Notes -/

namespace Note

/-- Tags are trimmed, not blank and distinct; no field is a NaN or equals another. -/
@[mk_iff]
structure IsTidy (n : Note) : Prop where
  tags : ∀ tag ∈ n.tags, tag.trim = tag ∧ tag ≠ []
  tags_nodup : n.tags.Nodup
  noNaN : n.HasNoNaN
  fields_distinct : n.fields.Pairwise fun f g => f.same g = false

instance (n : Note) : Decidable n.IsTidy := decidable_of_iff' _ n.isTidy_iff

/-- A note that has everything of two others: all of the first comes first, and nothing is there that comes from
neither but for a line to set them off. -/
structure IsUnion (n other union : Note) : Prop where
  path : union.path = n.path
  directive : union.directive = n.directive
  lines : ∃ added, union.lines = n.lines ++ added ∧ (added = [] ∨ added = [] :: other.lines)
  tags : ∃ added, union.tags = n.tags ++ added ∧ added.Sublist other.tags
  fields : ∃ added, union.fields = n.fields ++ added ∧ added.Sublist other.fields
  all_lines : other.lines <:+ union.lines
  all_tags : other.tags ⊆ union.tags
  all_fields : ∀ f ∈ other.fields, ∃ g ∈ union.fields, f.same g = true
  tags_nodup : union.tags.Nodup
  fields_distinct : union.fields.Pairwise fun f g => f.same g = false

variable {n m : Note}

theorem distinct_iff_pairwise {fields : List Field} :
    (fields.Pairwise fun f g => f.same g = false) ↔ fields.Pairwise fun f g => g.same f = false := by
  simp only [Field.same_comm]

theorem nodup_iff_pairwise {tags : List Text} : tags.Nodup ↔ tags.Pairwise fun s t => (t == s) = false := by
  simp only [List.Nodup, beq_eq_false_iff_ne, ne_comm]

theorem IsTidy.join_eq (hm : m.IsTidy) (n : Note) :
    n.join m = { n with
      lines := mergedLines n.lines m.lines
      tags := unionBy (· == ·) n.tags m.tags
      fields := unionBy Field.same n.fields m.fields } := by
  rw [Note.join_eq, foldl_addTrimmed hm.tags, addTo_eq, foldl_keep_eq_unionBy (nodup_iff_pairwise.1 hm.tags_nodup),
    foldl_keep_eq_unionBy (distinct_iff_pairwise.1 hm.fields_distinct)]

theorem IsTidy.join (hn : n.IsTidy) (hm : m.IsTidy) : (n.join m).IsTidy := by
  rw [hm.join_eq]
  constructor
  · intro tag htag
    rcases mem_unionBy htag with htag | htag
    · exact hn.tags tag htag
    · exact hm.tags tag htag
  · exact nodup_iff_pairwise.2
      (pairwise_unionBy (nodup_iff_pairwise.1 hn.tags_nodup) (nodup_iff_pairwise.1 hm.tags_nodup))
  · intro f hf
    rcases mem_unionBy hf with hf | hf
    · exact hn.noNaN f hf
    · exact hm.noNaN f hf
  · exact distinct_iff_pairwise.2
      (pairwise_unionBy (distinct_iff_pairwise.1 hn.fields_distinct) (distinct_iff_pairwise.1 hm.fields_distinct))

theorem mergedLines_spec (lines other : List Text) :
    (∃ added, mergedLines lines other = lines ++ added ∧ (added = [] ∨ added = [] :: other)) ∧
      other <:+ mergedLines lines other := by
  unfold mergedLines
  split
  · rename_i heq
    exact ⟨⟨[], by simp, .inl rfl⟩, heq ▸ List.suffix_rfl⟩
  · exact ⟨⟨[] :: other, rfl, .inr rfl⟩, ⟨lines ++ [[]], by simp⟩⟩

theorem beq_trans (s t u : Text) (hst : (s == t) = true) (htu : (t == u) = true) : (s == u) = true := by
  simp_all

theorem IsTidy.isUnion_join (hn : n.IsTidy) (hm : m.IsTidy) : IsUnion n m (n.join m) := by
  have hjoin := hn.join hm
  have hlines := mergedLines_spec n.lines m.lines
  rw [hm.join_eq] at hjoin ⊢
  constructor
  · rfl
  · rfl
  · exact hlines.1
  · exact unionBy_eq_append
  · exact unionBy_eq_append
  · exact hlines.2
  · intro tag htag
    have hany : (unionBy (· == ·) n.tags m.tags).any (tag == ·) = true := by
      rw [any_unionBy beq_trans]
      simp [htag]
    simpa using hany
  · intro f hf
    have hthere : m.fields.any (f.same ·) = true := List.any_eq_true.2 ⟨f, hf, Field.same_self (hm.noNaN f hf)⟩
    have hany : (unionBy Field.same n.fields m.fields).any (f.same ·) = true := by
      rw [any_unionBy (r := Field.same) fun _ _ _ => Field.same_trans, hthere, Bool.or_true]
    exact List.any_eq_true.1 hany
  · exact hjoin.tags_nodup
  · exact hjoin.fields_distinct

theorem IsTidy.join_self (h : n.IsTidy) : n.join n = n := by
  have hlines : mergedLines n.lines n.lines = n.lines := if_pos rfl
  rw [h.join_eq, hlines, unionBy_self fun tag _ => beq_self_eq_true tag,
    unionBy_self fun f hf => Field.same_self (h.noNaN f hf)]

theorem IsTidy.join_assoc {k : Note} (hm : m.IsTidy) (hk : k.IsTidy) (n : Note) :
    ((n.join m).join k).tags = (n.join (m.join k)).tags ∧ ((n.join m).join k).fields = (n.join (m.join k)).fields := by
  rw [hk.join_eq, (hm.join hk).join_eq, hm.join_eq, hk.join_eq]
  exact ⟨unionBy_assoc beq_trans, unionBy_assoc fun _ _ _ => Field.same_trans⟩

/-- Merging tidy notes at one path is a union that the first note leads. A note merged with itself stays as it is,
tags and fields do not depend on the grouping, and notes at two paths are not merged. -/
theorem merge_is_leading_union {n m k : Note} (hn : n.IsTidy) (hm : m.IsTidy) (hk : k.IsTidy)
    (hnm : n.path = m.path) (hnk : n.path = k.path) :
    (∃ union, n.merge m = .ok union ∧ IsUnion n m union) ∧
      n.merge n = .ok n ∧
      (∃ nm mk left right, n.merge m = .ok nm ∧ m.merge k = .ok mk ∧ nm.merge k = .ok left ∧
        n.merge mk = .ok right ∧ left.tags = right.tags ∧ left.fields = right.fields) ∧
      ∀ other : Note, n.path ≠ other.path → n.merge other = .error (.incompatibleMerge n.path other.path) := by
  refine ⟨⟨n.join m, merge_eq_ok hnm, hn.isUnion_join hm⟩, ?_, ?_, ?_⟩
  · rw [merge_eq_ok rfl, hn.join_self]
  · have hleft : (n.join m).merge k = .ok ((n.join m).join k) := merge_eq_ok (by rw [join_path, hnk])
    have hright : n.merge (m.join k) = .ok (n.join (m.join k)) := merge_eq_ok (by rw [join_path, hnm])
    have hassoc := hm.join_assoc hk n
    exact ⟨_, _, _, _, merge_eq_ok hnm, merge_eq_ok (hnm.symm.trans hnk), hleft, hright, hassoc.1, hassoc.2⟩
  · intro other hother
    exact if_neg hother

def zeroed (negative : Bool) (line tag : String) : Note :=
  ⟨"Sum".toList, [line.toList], [tag.toList, "sums".toList], [("total".toList, .number (.ofRank negative 0))], .insert⟩

theorem merge_is_leading_union_zeroed :
    let n := zeroed false "one" "a"
    let m := zeroed true "two" "b"
    let k := zeroed true "one" "c"
    n.IsTidy ∧ m.IsTidy ∧ k.IsTidy ∧
      (∃ union, n.merge m = .ok union ∧ IsUnion n m union) ∧ n.merge n = .ok n ∧
      ∃ nm mk left right, n.merge m = .ok nm ∧ m.merge k = .ok mk ∧ nm.merge k = .ok left ∧
        n.merge mk = .ok right ∧ left.tags = right.tags ∧ left.fields = right.fields := by
  have hn : (zeroed false "one" "a").IsTidy := by decide
  have hm : (zeroed true "two" "b").IsTidy := by decide
  have hk : (zeroed true "one" "c").IsTidy := by decide
  obtain ⟨hunion, hself, hgrouping, -⟩ := merge_is_leading_union hn hm hk rfl rfl
  exact ⟨hn, hm, hk, hunion, hself, hgrouping⟩

end Note

end Notebook
