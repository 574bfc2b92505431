import Notebook.Proofs.Text.Lines
import Notebook.Text.Utf8

/-! # Bytes are decoded line by line

A line end is no part of a longer character, so that the lines of some bytes are the lines of the text
that they encode. What is decoded of a beginning does not depend on what follows it.
-/

namespace Notebook.Utf8

/-! ## Bytes after a lead byte -/

theorem tails_take_append {count : Nat} {low high : UInt8} {rest : List UInt8}
    (h : (tails count low high rest).length = count) (more : List UInt8) :
    tails count low high (rest.take count ++ more) = tails count low high rest := by
  fun_induction tails count low high rest with
  | case1 => rw [tails]
  | case2 count low high hne => exact absurd h.symm (by simpa using hne)
  | case3 count low high b rest hin ih =>
    rw [List.take_succ_cons, List.cons_append, tails, if_pos hin, ih (by simpa using h)]
  | case4 => simp at h

theorem tails_prefix (count : Nat) (low high : UInt8) (rest : List UInt8) :
    tails count low high rest <+: rest := by
  fun_induction tails count low high rest with
  | case1 | case2 | case4 => exact List.nil_prefix
  | case3 count low high b rest _ ih => exact List.cons_prefix_cons.2 ⟨rfl, ih⟩

theorem le_of_mem_tails {count : Nat} {low high : UInt8} {rest : List UInt8} (hlow : 0x80 ≤ low.toNat) :
    (∀ b ∈ (tails count low high rest).head?, low.toNat ≤ b.toNat) ∧
      ∀ b ∈ tails count low high rest, 0x80 ≤ b.toNat := by
  fun_induction tails count low high rest with
  | case1 | case2 | case4 => simp
  | case3 count low high b rest hin ih =>
    have hb : low.toNat ≤ b.toNat := by
      rw [Bool.and_eq_true, decide_eq_true_eq] at hin
      exact UInt8.le_iff_toNat_le.1 hin.1
    obtain ⟨-, hrest⟩ := ih (by decide)
    refine ⟨by simpa using hb, fun d hd => ?_⟩
    rcases List.mem_cons.1 hd with rfl | hd
    · omega
    · exact hrest d hd

/-! ## One character -/

/-- A lead byte that others follow has bits of its own, or else the byte after it has. -/
theorem follow?_bounds {lead low high : UInt8} {count : Nat} (h : follow? lead = some (count, low, high)) :
    0x80 ≤ lead.toNat ∧ 0 < count ∧ 0x80 ≤ low.toNat ∧ (0 < leadBits count lead ∨ 0x90 ≤ low.toNat) := by
  unfold follow? at h
  simp only [Bool.and_eq_true, decide_eq_true_eq, UInt8.le_iff_toNat_le, ← UInt8.toNat_inj] at h
  unfold leadBits
  split_ifs at h <;> simp only [Option.some.injEq, Prod.mk.injEq] at h <;> obtain ⟨rfl, rfl, -⟩ := h <;>
    simp_all <;> omega

theorem step_take_append {lead : UInt8} {rest : List UInt8} {c : Char} {used : Nat}
    (h : step lead rest = (some c, used)) (more : List UInt8) :
    step lead (rest.take used ++ more) = (some c, used) := by
  unfold step at *
  split
  · rename_i hascii
    rwa [if_pos hascii] at h
  · rename_i hascii
    rw [if_neg hascii] at h
    cases hfollow : follow? lead with
    | none => simp [hfollow] at h
    | some form =>
      obtain ⟨count, low, high⟩ := form
      simp only [hfollow] at h ⊢
      split at h
      · rename_i hwhole
        have hused : count = used := (Prod.mk.inj h).2
        rw [← hused, tails_take_append hwhole, if_pos hwhole, h, hused]
      · cases h

theorem toNat_ofNat {n : Nat} (h : n.isValidChar) : (Char.ofNat n).toNat = n := by
  rw [Char.ofNat, dif_pos h]
  rfl

theorem ofNat_eq_iff {n : Nat} (h : n < 0x80) (c : Char) : Char.ofNat n = c ↔ n = c.toNat := by
  have hcode : (Char.ofNat n).toNat = n := toNat_ofNat (.inl (by omega))
  constructor
  · rintro rfl
    exact hcode.symm
  · rintro rfl
    exact Char.ofNat_toNat c

theorem ofNat_ne {n : Nat} {c : Char} (hpos : 0 < c.toNat) (h : c.toNat < n) : Char.ofNat n ≠ c := by
  rintro rfl
  by_cases hvalid : n.isValidChar
  · have hcode := toNat_ofNat hvalid
    omega
  · rw [Char.ofNat, dif_neg hvalid] at hpos
    exact Nat.lt_irrefl 0 hpos

theorem le_foldl_tails (n : Nat) (found : List UInt8) :
    n ≤ found.foldl (fun n b => 64 * n + (b.toNat - 0x80)) n := by
  induction found generalizing n with
  | nil => exact Nat.le_refl n
  | cons b rest ih =>
    have hstep : n ≤ 64 * n + (b.toNat - 0x80) := by omega
    rw [List.foldl_cons]
    exact hstep.trans (ih _)

/-- The number of more bytes of a character: its lead byte alone, or bytes that all lie beyond ASCII and
a character that ends no line. -/
theorem step_eq_some {lead : UInt8} {rest : List UInt8} {c : Char} {used : Nat}
    (h : step lead rest = (some c, used)) :
    used ≤ rest.length ∧
      (c = Char.ofNat lead.toNat ∧ used = 0 ∧ lead.toNat < 0x80 ∨
        (∀ b ∈ lead :: rest.take used, 0x80 ≤ b.toNat) ∧ c ≠ '\n' ∧ c ≠ '\r') := by
  unfold step at h
  split at h
  · rename_i hascii
    obtain ⟨rfl, rfl⟩ : Char.ofNat lead.toNat = c ∧ 0 = used := by simpa using h
    exact ⟨Nat.zero_le _, .inl ⟨rfl, rfl, UInt8.lt_iff_toNat_lt.1 hascii⟩⟩
  cases hfollow : follow? lead with
  | none => simp [hfollow] at h
  | some form =>
    obtain ⟨count, low, high⟩ := form
    simp only [hfollow] at h
    split at h
    · rename_i hwhole
      obtain ⟨hlead, hcount, hlow, hbits⟩ := follow?_bounds hfollow
      obtain ⟨hfirst, htails⟩ := @le_of_mem_tails count low high rest hlow
      obtain ⟨more, hmore⟩ := tails_prefix count low high rest
      generalize tails count low high rest = found at *
      obtain ⟨b, found, rfl⟩ : ∃ b more, found = b :: more :=
        List.exists_cons_of_length_pos (hwhole ▸ hcount)
      have hfar : 0x0D < (b :: found).foldl (fun n b => 64 * n + (b.toNat - 0x80)) (leadBits count lead) := by
        have hb := hfirst b rfl
        have hstep : 0x0D < 64 * leadBits count lead + (b.toNat - 0x80) := by omega
        rw [List.foldl_cons]
        exact hstep.trans_le (le_foldl_tails _ found)
      rw [Prod.mk.injEq, Option.some.injEq] at h
      obtain ⟨rfl, rfl⟩ := h
      generalize (b :: found).foldl (fun n b => 64 * n + (b.toNat - 0x80)) (leadBits count lead) = n at hfar
      have hfeed : Char.ofNat n ≠ '\n' := ofNat_ne (by decide) (Nat.lt_trans (by decide) hfar)
      have hreturn : Char.ofNat n ≠ '\r' := ofNat_ne (by decide) hfar
      refine ⟨?_, .inr ⟨?_, hfeed, hreturn⟩⟩
      · rw [← hmore, List.length_append]
        omega
      · rw [← hmore, ← hwhole, List.take_left]
        exact List.forall_mem_cons.2 ⟨hlead, htails⟩
    · cases h

theorem step_append {lead : UInt8} {rest : List UInt8} {c : Char} {used : Nat}
    (h : step lead rest = (some c, used)) (more : List UInt8) :
    step lead (rest ++ more) = (some c, used) := by
  rw [← List.take_append_drop used rest, List.append_assoc]
  exact step_take_append h _

/-! ## Decoding -/

theorem decode?_cons {lead : UInt8} {rest : List UInt8} {t : Text} (h : decode? (lead :: rest) = some t) :
    ∃ c used t', step lead rest = (some c, used) ∧ decode? (rest.drop used) = some t' ∧ t = c :: t' := by
  rw [decode?] at h
  split at h
  · rename_i c used hstep
    obtain ⟨t', ht', rfl⟩ := Option.map_eq_some_iff.1 h
    exact ⟨c, used, t', hstep, ht', rfl⟩
  · cases h

theorem decode?_append {bytes : List UInt8} {t : Text} (h : decode? bytes = some t) (more : List UInt8) :
    decode? (bytes ++ more) = (decode? more).map (t ++ ·) := by
  induction hn : bytes.length using Nat.strongRecOn generalizing bytes t with
  | _ n ih =>
    cases bytes with
    | nil =>
      obtain rfl : [] = t := by simpa [decode?] using h
      simp
    | cons lead rest =>
      obtain ⟨c, used, t', hstep, ht', rfl⟩ := decode?_cons h
      have hused := (step_eq_some hstep).1
      have hlength : (rest.drop used).length < n := by
        rw [← hn, List.length_drop, List.length_cons]
        omega
      rw [List.cons_append, decode?, step_append hstep more]
      dsimp only
      rw [List.drop_append_of_le_length hused, ih _ hlength ht' rfl, Option.map_map]
      rfl

theorem decode?_first {lead : UInt8} {rest : List UInt8} {c : Char} {used : Nat}
    (h : step lead rest = (some c, used)) : decode? (lead :: rest.take used) = some [c] := by
  have hstep := step_take_append h []
  rw [List.append_nil] at hstep
  rw [decode?, hstep]
  dsimp only
  rw [List.drop_of_length_le (List.length_take_le used rest), decode?]
  rfl

/-! ## Lines -/

def onFirst {α : Type} (front : List α) : List (List α) → List (List α)
  | [] => [front]
  | first :: more => (front ++ first) :: more

theorem lines_cons {b : UInt8} {rest : List UInt8} (hfeed : b ≠ 10) (hreturn : b = 13 → rest.head? ≠ some 10) :
    lines (b :: rest) = onFirst [b] (lines rest) := by
  rw [lines, if_neg hfeed, if_neg (by simpa using hreturn)]
  cases lines rest <;> rfl

theorem lines_append {front rest : List UInt8} (hne : front ≠ [])
    (hfront : ∀ b ∈ front, 0x80 ≤ b.toNat) : lines (front ++ rest) = onFirst front (lines rest) := by
  have noEnd {b : UInt8} (hb : 0x80 ≤ b.toNat) : b ≠ 10 ∧ b ≠ 13 := by
    constructor <;> rintro rfl <;> exact absurd hb (by decide)
  induction front with
  | nil => exact absurd rfl hne
  | cons b front ih =>
    obtain ⟨hfeed, hreturn⟩ := noEnd (hfront b (by simp))
    rw [List.cons_append, lines_cons hfeed fun h => absurd h hreturn]
    cases front with
    | nil => rfl
    | cons d front =>
      rw [ih (by simp) fun e he => hfront e (.tail _ he)]
      cases lines rest <;> rfl

theorem text_lines_cons {c : Char} {t : Text} (hfeed : c ≠ '\n') (hreturn : c = '\r' → t.head? ≠ some '\n') :
    Text.lines (c :: t) = onFirst [c] (Text.lines t) := by
  rw [Text.lines]
  · cases Text.lines t <;> rfl
  · exact hfeed
  · rintro rest rfl rfl
    exact hreturn rfl rfl

theorem head?_eq_of_decode? {bytes : List UInt8} {t : Text} (h : decode? bytes = some t) :
    t.head? = some '\n' ↔ bytes.head? = some 10 := by
  cases bytes with
  | nil =>
    obtain rfl : [] = t := by simpa [decode?] using h
    simp
  | cons lead rest =>
    obtain ⟨c, used, t', hstep, -, rfl⟩ := decode?_cons h
    obtain ⟨-, ⟨rfl, -, hascii⟩ | ⟨hbeyond, hfeed, -⟩⟩ := step_eq_some hstep
    · rw [List.head?_cons, List.head?_cons, Option.some.injEq, Option.some.injEq, ofNat_eq_iff hascii,
        ← UInt8.toNat_inj]
      rfl
    · have hlead : lead ≠ 10 := by
        rintro rfl
        exact absurd (hbeyond 10 (by simp)) (by decide)
      simp [hfeed, hlead]

theorem map_decode?_lines {bytes : List UInt8} {t : Text} (h : decode? bytes = some t) :
    (lines bytes).map decode? = (Text.lines t).map some := by
  -- A first line that is decoded stays so with one more character in front of it.
  have first {front : List UInt8} {c : Char} (hc : decode? front = some [c]) {ls : List (List UInt8)}
      {ts : List Text} (hrest : ls.map decode? = ts.map some) :
      (onFirst front ls).map decode? = (onFirst [c] ts).map some := by
    cases ls with
    | nil =>
      obtain rfl : ts = [] := by simpa using hrest.symm
      simp [onFirst, hc]
    | cons l ls =>
      obtain ⟨t, ts, rfl⟩ : ∃ t more, ts = t :: more := by cases ts <;> simp_all
      obtain ⟨hl, hls⟩ : decode? l = some t ∧ ls.map decode? = ts.map some := by simpa using hrest
      simp [onFirst, decode?_append hc, hl, hls]
  induction hn : bytes.length using Nat.strongRecOn generalizing bytes t with
  | _ n ih =>
    cases bytes with
    | nil =>
      obtain rfl : [] = t := by simpa [decode?] using h
      rfl
    | cons lead rest =>
      obtain ⟨c, used, t', hstep, ht', rfl⟩ := decode?_cons h
      have hrest : (lines (rest.drop used)).map decode? = (Text.lines t').map some := by
        refine ih _ ?_ ht' rfl
        rw [← hn, List.length_drop, List.length_cons]
        omega
      obtain ⟨hused, ⟨rfl, rfl, hascii⟩ | ⟨hbeyond, hfeed, hreturn⟩⟩ := step_eq_some hstep
      · rw [List.drop_zero] at ht' hrest
        by_cases hfeed : lead = 10
        · subst hfeed
          rw [lines, if_pos rfl, List.map_cons, hrest, decode?]
          rfl
        by_cases hreturn : lead = 13 ∧ rest.head? = some 10
        · obtain ⟨rfl, hhead⟩ := hreturn
          obtain ⟨t'', rfl⟩ := List.head?_eq_some_iff.1 ((head?_eq_of_decode? ht').2 hhead)
          rw [lines, if_neg hfeed, if_pos (by simp [hhead])]
          exact hrest
        · have hone : decode? [lead] = some [Char.ofNat lead.toNat] := decode?_first hstep
          rw [lines_cons hfeed fun h => not_and.1 hreturn h, text_lines_cons]
          · exact first hone hrest
          · rw [Ne, ofNat_eq_iff hascii]
            exact fun h => hfeed (UInt8.toNat_inj.1 h)
          · rw [ofNat_eq_iff hascii, Ne, head?_eq_of_decode? ht']
            exact fun h => not_and.1 hreturn (UInt8.toNat_inj.1 h)
      · have hsplit : lead :: rest = (lead :: rest.take used) ++ rest.drop used := by simp
        rw [hsplit, lines_append (by simp) hbeyond, text_lines_cons hfeed fun h => absurd h hreturn]
        exact first (decode?_first hstep) hrest

/-! ## Line feeds -/

theorem feed_mem_of_decode? {bytes : List UInt8} {t : Text} (h : decode? bytes = some t) (hfeed : '\n' ∈ t) :
    10 ∈ bytes := by
  induction hn : bytes.length using Nat.strongRecOn generalizing bytes t with
  | _ n ih =>
    cases bytes with
    | nil =>
      obtain rfl : [] = t := by simpa [decode?] using h
      simp at hfeed
    | cons lead rest =>
      obtain ⟨c, used, t', hstep, ht', rfl⟩ := decode?_cons h
      obtain ⟨-, hchar⟩ := step_eq_some hstep
      rcases List.mem_cons.1 hfeed with hc | hlater
      · rcases hchar with ⟨rfl, -, hascii⟩ | ⟨-, hother, -⟩
        · have hlead : lead.toNat = 10 := (ofNat_eq_iff hascii '\n').1 hc.symm
          obtain rfl : lead = 10 := UInt8.toNat_inj.1 hlead
          exact List.mem_cons_self
        · exact absurd hc.symm hother
      · have hlength : (rest.drop used).length < n := by
          rw [← hn, List.length_drop, List.length_cons]
          omega
        exact .tail _ (List.mem_of_mem_drop (ih _ hlength ht' hlater rfl))

theorem feed_not_mem_of_mem_lines {bytes line : List UInt8} (h : line ∈ lines bytes) : 10 ∉ line := by
  fun_induction lines bytes generalizing line with
  | case1 => simp at h
  | case2 rest ih =>
    rcases List.mem_cons.1 h with rfl | h
    · exact List.not_mem_nil
    · exact ih h
  | case3 b rest _ _ ih => exact ih h
  | case4 b rest hb _ hnil _ =>
    rw [List.mem_singleton.1 h]
    simpa using Ne.symm hb
  | case5 b rest hb _ first more hmore ih =>
    rw [hmore] at ih
    rcases List.mem_cons.1 h with rfl | h
    · rw [List.mem_cons, not_or]
      exact ⟨Ne.symm hb, ih (by simp)⟩
    · exact ih (by simp [h])

end Notebook.Utf8
