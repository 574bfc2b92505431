import Mathlib.Data.List.DropRight
import Notebook.Proofs.Page.KeptText
import Notebook.Proofs.Store.Agreement
import Notebook.Proofs.Store.Effects
import Notebook.Proofs.Store.Soundness

/-! # Saving back what was read

Notes from pages are stored in a form that is the same after they are read and saved again.
-/

namespace Notebook

open Text

/-! ## Notes that stay as they are -/

namespace Note

/-- What holds of the notes on a page without carriage returns, and of whatever is made of them. -/
structure IsPlain (n : Note) : Prop where
  lines : ∀ line ∈ n.lines, '\n' ∉ line ∧ '\r' ∉ line
  tags : ∀ tag ∈ n.tags, tag.trim = tag ∧ tag ≠ []
  noNaN : n.HasNoNaN

/-- A plain note that is read as it was stored. -/
structure IsSteady (n : Note) : Prop extends n.IsPlain where
  normal : n.normal = n

variable {n m : Note}

theorem IsPlain.join (hn : n.IsPlain) (hm : m.IsPlain) : (n.join m).IsPlain where
  lines := by
    rw [join_eq]
    unfold mergedLines
    dsimp only
    split
    · exact hn.lines
    · intro line hline
      rcases List.mem_append.1 hline with hline | hline
      · exact hn.lines line hline
      · rcases List.mem_cons.1 hline with rfl | hline
        · simp
        · exact hm.lines line hline
  tags := by
    rw [join_eq]
    refine List.foldlRecOn m.tags _ (motive := fun tags : List Text => ∀ tag ∈ tags, tag.trim = tag ∧ tag ≠ []) hn.tags ?_
    intro kept hkept tag _
    split
    · exact hkept
    · rename_i hne
      unfold addTo
      split
      · exact hkept
      · exact List.forall_mem_append.2 ⟨hkept, by simpa using hne⟩
  noNaN := hn.noNaN.join hm.noNaN

theorem IsPlain.linesOf_text (h : n.IsPlain) : linesOf n.text = n.lines.dropWhile Text.isBlank := by
  have hlines := lines_ofLines_plain h.lines []
  rw [List.append_nil] at hlines
  rw [linesOf, text, hlines, Text.lines, List.append_nil]

theorem IsPlain.isSteady_normal (h : n.IsPlain) : n.normal.IsSteady := by
  have hplain : n.normal.IsPlain := by
    constructor
    · intro line hline
      have hline : line ∈ linesOf n.text := hline
      rw [h.linesOf_text] at hline
      exact h.lines line ((List.dropWhile_suffix _).subset hline)
    · exact fun tag htag => h.tags tag (mem_of_mem_eraseDupsBy htag)
    · exact fun f hf => h.noNaN f (mem_of_mem_eraseDupsBy hf)
  refine ⟨hplain, ?_⟩
  have hlines : linesOf n.normal.text = n.normal.lines := by
    rw [hplain.linesOf_text]
    change (linesOf n.text).dropWhile Text.isBlank = linesOf n.text
    rw [h.linesOf_text, List.dropWhile_idempotent]
  have htags : n.normal.tags.eraseDups = n.normal.tags := eraseDupsBy_eq_self (pairwise_eraseDupsBy _ _)
  have hfields : n.normal.fields.eraseDupsBy Field.same = n.normal.fields :=
    eraseDupsBy_eq_self (pairwise_eraseDupsBy _ _)
  rw [Note.normal, hlines, htags, hfields]
  rfl

theorem IsPlain.join_self (h : n.IsPlain) : n.join n = n := by
  have hlines : mergedLines n.lines n.lines = n.lines := if_pos rfl
  rw [join_eq, hlines, foldl_addTrimmed h.tags, addTo_eq, foldl_keep, foldl_keep,
    filter_new_self fun tag _ => beq_self_eq_true tag, filter_new_self fun f hf => Field.same_self (h.noNaN f hf)]
  simp

theorem IsSteady.kept_join_self (h : n.IsSteady) : (n.join n).kept = n := by
  rw [h.join_self, kept_eq_normal h.noNaN, h.normal]

end Note

theorem readPage_isPlain {page : Text} {notes : Notes} (hreturn : '\r' ∉ page) (h : readPage page = .ok notes) :
    ∀ n ∈ notes.toList, n.IsPlain := by
  refine forall_readPage Note.IsPlain (fun n m hn hm => hn.join hm) (fun n hn => ?_) h
  have hfound := notesOnLines_isFound (fun line => newline_not_mem_of_mem_lines) n hn
  constructor
  · intro line hline
    refine ⟨(hfound.lines line hline).1, fun hmem => hreturn ?_⟩
    exact mem_of_mem_lines (mem_of_mem_notesOnLines hn hline) hmem
  · intro tag htag
    exact ⟨(hfound.tags tag htag).inline.trimmed, (hfound.tags tag htag).ne_nil⟩
  · exact hfound.hasNoNaN

/-! ## Stores -/

namespace View

def IsSteady (v : View) : Prop := ∀ path, ∃ stored, v path = .ok stored ∧ ∀ n ∈ stored, n.IsSteady

variable {v w : View} {n : Note} {path : Text}

theorem IsSteady.update (h : v.IsSteady) {stored : Option Note} (hstored : ∀ n ∈ stored, n.IsSteady) :
    IsSteady (Function.update v path (.ok stored)) := by
  intro q
  by_cases hq : q = path
  · rw [hq, Function.update_self]
    exact ⟨stored, rfl, hstored⟩
  · rw [Function.update_of_ne hq]
    exact h q

theorem IsSteady.put (h : v.IsSteady) (hn : n.IsPlain) : (v.put path n).IsSteady :=
  h.update (by simpa using hn.isSteady_normal)

theorem IsSteady.remove (h : v.IsSteady) : (v.remove path).IsSteady := h.update (by simp)

theorem IsSteady.putOrMerge? (h : v.IsSteady) (hn : n.IsPlain) (hw : v.putOrMerge? n = some w) : w.IsSteady := by
  obtain ⟨stored, hstored, hsteady⟩ := h n.path
  rw [View.putOrMerge?, hstored] at hw
  rw [← Option.some.inj hw]
  cases stored with
  | none => exact h.put hn
  | some m => exact h.put ((hsteady m rfl).toIsPlain.join hn)

theorem IsSteady.save? (h : v.IsSteady) (hn : n.IsPlain) (hw : v.save? n = some w) : w.IsSteady := by
  obtain ⟨stored, hstored, hsteady⟩ := h n.path
  unfold View.save? at hw
  rw [hstored] at hw
  cases hd : n.directive with
  | insert | merge =>
    simp only [hd] at hw
    refine h.putOrMerge? hn ?_
    rw [View.putOrMerge?, hstored]
    exact hw
  | replace | unknown _ =>
    simp only [hd] at hw
    exact Option.some.inj hw ▸ h.put hn
  | addOnly =>
    simp only [hd] at hw
    split at hw
    · exact Option.some.inj hw ▸ h.put hn
    · cases hw
  | delete =>
    simp only [hd] at hw
    exact Option.some.inj hw ▸ h.remove
  | rename new =>
    simp only [hd] at hw
    have hmoved : ({ n with path := new, directive := .insert } : Note).IsPlain := ⟨hn.lines, hn.tags, hn.noNaN⟩
    exact h.remove.putOrMerge? hmoved hw

theorem IsSteady.saveAll? {notes : List Note} (h : v.IsSteady) (hplain : ∀ n ∈ notes, n.IsPlain)
    (hw : notes.foldlM View.save? v = some w) : w.IsSteady := by
  induction notes generalizing v with
  | nil => exact Option.some.inj hw ▸ h
  | cons n rest ih =>
    rw [List.foldlM_cons, Option.bind_eq_bind, Option.bind_eq_some_iff] at hw
    obtain ⟨u, hu, hrest⟩ := hw
    exact ih (h.save? (hplain n (by simp)) hu) (fun m hm => hplain m (by simp [hm])) hrest

end View

namespace Store

structure IsSettled (s : Store) : Prop where
  sound : s.IsSound
  readable : s.IsReadable
  steady : View.IsSteady s.contents

theorem isSettled_fresh : fresh.IsSettled where
  sound := isSound_fresh
  readable := ⟨by simp [fresh, empty], by simp [fresh, empty], by simp [fresh, empty], by simp [fresh, empty]⟩
  steady path := ⟨none, by simp [contents_eq, recordsAt, fresh, empty], by simp⟩

variable {s : Store} {around : Surroundings} {notes : Notes}

theorem IsSettled.steady_of_ok (h : s.IsSettled) (hplain : ∀ n ∈ notes.inPathOrder, n.IsPlain) {report : Report}
    (hok : (s.save around notes).result = .ok report) : View.IsSteady (s.save around notes).store.contents := by
  obtain ⟨b, hout, hsave⟩ := save_eq_ok hok
  have hview := Saving.saveAll_view hout fun n hn => (hplain n hn).noNaN
  rw [hsave]
  exact h.steady.saveAll? hplain hview

theorem IsSettled.save (h : s.IsSettled) (around : Surroundings) (hplain : ∀ n ∈ notes.toList, n.IsPlain) :
    (s.save around notes).store.IsSettled where
  sound := by
    rcases s.store_save around notes with hsame | hreached
    · rw [hsame]
      exact h.sound
    · rw [hreached]
      exact (respects_isSound around).saveAll notes.inPathOrder s.newBatch h.sound
  readable := h.readable.save around notes
  steady := by
    have hordered : ∀ n ∈ notes.inPathOrder, n.IsPlain := fun n hn => hplain n (Notes.mem_inPathOrder.1 hn)
    cases hresult : (s.save around notes).result with
    | ok report => exact h.steady_of_ok hordered hresult
    | error e =>
      by_cases hadd : ∃ path, e = .duplicatePath path
      · -- Only the notes before the `add` were saved.
        obtain ⟨path, rfl⟩ := hadd
        obtain ⟨k, hends⟩ := Saved.endsAtAdd_save hresult
        obtain ⟨report, hbefore⟩ := hends.before k (Nat.le_refl k)
        rw [hends.store]
        refine h.steady_of_ok (fun n hn => ?_) hbefore
        rw [Notes.inPathOrder_first] at hn
        exact hordered n (List.mem_of_mem_take hn)
      · rw [Saved.store_save_of_error hresult fun path heq => hadd ⟨path, heq⟩]
        exact h.steady

/-- What a new store comes to while pages without carriage returns are saved, whether or not saving fails. -/
inductive FromPages : Store → Prop where
  | fresh : FromPages .fresh
  | save {s : Store} {page : Text} {notes : Notes} (around : Surroundings) : FromPages s → '\r' ∉ page →
      readPage page = .ok notes → FromPages (s.save around notes).store

theorem FromPages.isSettled (h : s.FromPages) : s.IsSettled := by
  induction h with
  | fresh => exact isSettled_fresh
  | save around _ hreturn hread ih => exact ih.save around (readPage_isPlain hreturn hread)

/-! ## Reading some paths -/

theorem idsAtAll_eq {hold : Hold} (hcanRead : hold.canRead = true) (paths : List Text) :
    s.idsAtAll hold paths = .ok (paths.flatMap s.idsAt) := by
  have hread : (paths.mapM fun path => hold.reading (.ok (s.idsAt path))) = .ok (paths.map s.idsAt) := by
    induction paths with
    | nil => rfl
    | cons path rest ih =>
      rw [List.mapM_cons, ih]
      simp [Hold.reading, hcanRead, bind, Except.bind, pure, Except.pure]
  rw [idsAtAll, hread, List.flatMap]
  rfl

theorem recordsOf_flatMap (s : Store) (paths : List Text) (path : Text) :
    s.recordsOf (paths.flatMap s.idsAt) path = if path ∈ paths then s.recordsAt path else [] := by
  have hid : ∀ r ∈ s.recordsAt path, r.id ∈ paths.flatMap s.idsAt ↔ path ∈ paths := by
    intro r hr
    obtain ⟨hmem, hpath⟩ := List.mem_filter.1 hr
    have hpath : r.path = .text path := by simpa using hpath
    simp [List.mem_flatMap, id_mem_idsAt hmem, hpath]
  unfold recordsOf
  split
  · rename_i hmem
    exact List.filter_eq_self.2 fun r hr => by simpa [hid r hr] using hmem
  · rename_i hmem
    exact List.filter_eq_nil_iff.2 fun r hr => by simpa [hid r hr] using hmem

theorem get?_notesAt {hold : Hold} (hcanRead : hold.canRead = true) {paths : List Text}
    (h : s.notesAt hold paths = .ok notes) (path : Text) :
    (if path ∈ paths then s.contents path else .ok none) = .ok (notes.get? path) := by
  rw [notesAt, idsAtAll_eq hcanRead] at h
  have hget := get?_notesOf h path
  rw [recordsOf_flatMap] at hget
  split
  · rename_i hmem
    rw [if_pos hmem] at hget
    rw [contents_eq, assembled_eq]
    exact hget
  · rename_i hmem
    rw [if_neg hmem] at hget
    exact hget

theorem IsReadable.notesAt (h : s.IsReadable) {hold : Hold} (hcanRead : hold.canRead = true) (paths : List Text) :
    ∃ notes, s.notesAt hold paths = .ok notes := by
  rw [Store.notesAt, idsAtAll_eq hcanRead]
  exact notesOf_succeeds h _

end Store

/-! ## Saving back -/

def Report.resaved (k : Nat) : Report := { Report.zero with merged := k, archived := k }

theorem View.effects?_stored {v : View} {notes : List Note}
    (h : ∀ n ∈ notes, v n.path = .ok (some n) ∧ n.directive = .insert ∧ n.IsSteady) :
    ∃ e, v.effects? notes = some e ∧ e.report = .resaved notes.length ∧ v.after e.changes = v := by
  induction notes with
  | nil => exact ⟨.nothing, rfl, rfl, rfl⟩
  | cons n rest ih =>
    obtain ⟨hstored, hdirective, hsteady⟩ := h n (by simp)
    obtain ⟨f, hf, hreport, hafter⟩ := ih fun m hm => h m (by simp [hm])
    have hfirst : v.effect? n = some (.merging n (some n)) := by
      unfold effect? stored?
      rw [hstored, hdirective]
      rfl
    have hsame : v.after (Effect.merging n (some n)).changes = v := by
      change after v [(n.path, none), (n.path, some (n.join n).kept)] = v
      rw [after_cons, after_cons, hsteady.kept_join_self, Function.update_idem, ← hstored]
      exact Function.update_eq_self _ _
    refine ⟨(Effect.merging n (some n)).andThen f, ?_, ?_, ?_⟩
    · rw [effects?, hfirst]
      simp only [Option.bind_eq_bind, Option.bind_some, hsame, hf]
    · rw [Effect.andThen, hreport]
      simp [Effect.merging, Effect.andThen, Effect.taking, Effect.placing, Effect.counting, Report.add,
        Report.resaved, Report.zero, Nat.add_comm]
    · rw [Effect.andThen, after_append, hsame, hafter]

namespace Store

variable {s : Store} {around : Surroundings}

def savedBack (s : Store) (around : Surroundings) (paths : List Text) : Store :=
  match s.notesAt around.hold paths with
  | .ok notes => (s.save around notes).store
  | .error _ => s

theorem IsSettled.save_notesAt (h : s.IsSettled) (hopen : around.IsOpen) (paths : List Text) :
    ∃ notes, s.notesAt around.hold paths = .ok notes ∧
      (∀ path ∈ paths, s.contents path = .ok (notes.get? path)) ∧
      (s.save around notes).result = .ok (.resaved notes.size) ∧
      (s.save around notes).store.contents = s.contents ∧ (s.save around notes).store.IsSettled := by
  obtain ⟨notes, hread⟩ := h.readable.notesAt hopen.canRead paths
  have hget := get?_notesAt hopen.canRead hread
  -- What was read is what is stored, so each note meets itself.
  have hstored : ∀ n ∈ notes.toList, s.contents n.path = .ok (some n) ∧ n.directive = .insert ∧ n.IsSteady := by
    intro n hn
    obtain ⟨path, hpath⟩ := Notes.mem_toList.1 hn
    have hcontents := hget path
    rw [hpath] at hcontents
    split at hcontents
    · have hkept := isKept_of_contents hcontents
      obtain ⟨stored, hstored, hsteady⟩ := h.steady path
      obtain rfl := Except.ok.inj (hcontents.symm.trans hstored)
      exact ⟨by rw [hkept.path, hcontents], hkept.directive, hsteady n rfl⟩
    · cases hcontents
  obtain ⟨e, he, hreport, hafter⟩ :=
    View.effects?_stored fun n (hn : n ∈ notes.inPathOrder) => hstored n (Notes.mem_inPathOrder.1 hn)
  have hsaved := savesAs_of_effects? hopen h.sound.texts he
  refine ⟨notes, hread, fun path hpath => ?_, ?_, by rw [hsaved.contents, hafter],
    h.save around fun n hn => (hstored n hn).2.2.toIsPlain⟩
  · rw [← hget path, if_pos hpath]
  · have hsize : notes.inPathOrder.length = notes.size := by
      rw [notes.inPathOrder_perm.length_eq, Notes.toList, List.length_map, Notes.size]
    rw [hsaved.result, hreport, hsize]

/-- Notes that came from pages can be read and saved again any number of times, and nothing that is read changes. -/
theorem saving_back_changes_nothing (h : s.FromPages) {rounds : List (Surroundings × List Text)}
    (hopen : ∀ round ∈ rounds, round.1.IsOpen) :
    let t := rounds.foldl (fun t round => t.savedBack round.1 round.2) s
    t.contents = s.contents ∧ ∀ around paths, around.IsOpen →
      ∃ notes, t.notesAt around.hold paths = .ok notes ∧
        (∀ path ∈ paths, s.contents path = .ok (notes.get? path)) ∧
        (t.save around notes).result = .ok { Report.zero with merged := notes.size, archived := notes.size } ∧
        (t.save around notes).store.contents = s.contents := by
  intro t
  have hkept : t.IsSettled ∧ t.contents = s.contents := by
    refine List.foldlRecOn rounds _ (motive := fun t : Store => t.IsSettled ∧ t.contents = s.contents)
      ⟨h.isSettled, rfl⟩ ?_
    rintro u ⟨hu, hsame⟩ round hround
    obtain ⟨notes, hread, -, -, hcontents, hsettled⟩ := hu.save_notesAt (hopen round hround) round.2
    have hback : u.savedBack round.1 round.2 = (u.save round.1 notes).store := by
      unfold savedBack
      rw [hread]
    rw [hback]
    exact ⟨hsettled, hcontents.trans hsame⟩
  refine ⟨hkept.2, fun around paths hopen => ?_⟩
  obtain ⟨notes, hread, hget, hresult, hcontents, -⟩ := hkept.1.save_notesAt hopen paths
  rw [hkept.2] at hget hcontents
  exact ⟨notes, hread, hget, hresult, hcontents⟩

def sketch : Text := "\\ p\n\\ tag\n\\ size = 2.5\n\nOne.\n\nTwo.\n".toList

def sketched : Notes :=
  .single ['p'] ⟨['p'], ["One.".toList, [], "Two.".toList], ["tag".toList],
    [("size".toList, .read "2.5".toList)], .insert⟩

def twoRounds : List (Surroundings × List Text) :=
  [(undisturbed, [['p']]), (undisturbed, [['q'], ['p'], ['p']])]

theorem saving_back_changes_nothing_sketch :
    readPage sketch = .ok sketched ∧
      let s := (fresh.save undisturbed sketched).store
      let t := twoRounds.foldl (fun t round => t.savedBack round.1 round.2) s
      t.contents = s.contents ∧ t.notesAt .free [['p'], ['q']] = .ok sketched ∧
        (t.save undisturbed sketched).result = .ok ⟨0, 1, 0, 0, 0, 1⟩ ∧
        (t.save undisturbed sketched).store.contents = s.contents := by
  have hopen : undisturbed.IsOpen := ⟨rfl, rfl⟩
  have hreturn : '\r' ∉ sketch := by decide +kernel
  have hread : readPage sketch = .ok sketched := by decide +kernel
  have hrounds : ∀ round ∈ twoRounds, round.1.IsOpen := by
    intro round hround
    simp only [twoRounds, List.mem_cons, List.not_mem_nil, or_false] at hround
    rcases hround with rfl | rfl <;> exact hopen
  obtain ⟨hsame, hsave⟩ := saving_back_changes_nothing (.save undisturbed .fresh hreturn hread) hrounds
  obtain ⟨notes, hnotes, -, hresult, hcontents⟩ := hsave undisturbed [['p'], ['q']] hopen
  have hsketched : notes = sketched := by
    refine Except.ok.inj (hnotes.symm.trans ?_)
    decide +kernel
  rw [hsketched] at hnotes hresult hcontents
  exact ⟨hread, hsame, hnotes, hresult, hcontents⟩

end Store

end Notebook
