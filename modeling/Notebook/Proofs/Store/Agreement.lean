import Notebook.Proofs.Number.Comparing
import Notebook.Proofs.Page.Fields
import Notebook.Proofs.Page.Found
import Notebook.Proofs.Query.FieldTerms
import Notebook.Proofs.Store.Conjunction
import Notebook.Proofs.Store.Refinement
import Notebook.Proofs.Store.WrittenRows

/-! # Pages and queries agree on fields

A field is read from a page, stored with its note, and sought with a term in which the same literal stands. The note
is found, unless the literal is an integer that no double is.
-/

namespace Notebook

/-! ## Where a note comes to stand -/

namespace Note

/-- The path at which the note is stored. -/
def landing (n : Note) : Text :=
  match n.directive with
  | .rename path => path
  | _ => n.path

/-- The note as it is stored where there is none. -/
def landed (n : Note) : Note := { n with path := n.landing }.normal

theorem Has.landed {n : Note} {f : Field} (h : n.Has f) : n.landed.Has f :=
  Has.normal (n := { n with path := n.landing }) h

end Note

namespace View

variable {v w : View} {n : Note}

theorem save?_landing (h : v.save? n = some w) (hdelete : n.directive ≠ .delete) (hfree : v n.landing = .ok none) :
    w n.landing = .ok (some n.landed) := by
  unfold save? at h
  unfold Note.landed
  unfold Note.landing at hfree ⊢
  cases hd : n.directive with
  | delete => exact absurd hd hdelete
  | insert | merge | replace | addOnly | unknown _ =>
    simp only [hd] at hfree h ⊢
    simp only [hfree, Option.isNone_none, if_true] at h
    rw [← Option.some.inj h, put, Function.update_self]
    rfl
  | rename path =>
    simp only [hd] at hfree h ⊢
    cases hv : v n.path with
    | error e => simp [hv] at h
    | ok stored =>
      have hremoved : v.remove n.path path = .ok none := by
        by_cases hpath : path = n.path
        · rw [remove, hpath, Function.update_self]
        · rw [remove, Function.update_of_ne hpath, hfree]
      simp only [hv, putOrMerge?, hremoved] at h
      rw [← Option.some.inj h, put, Function.update_self]
      rfl

theorem saveAll?_landing {before after : List Note} (h : (before ++ n :: after).foldlM save? v = some w)
    (hdelete : n.directive ≠ .delete) (hfree : v n.landing = .ok none)
    (hothers : ∀ m ∈ before ++ after, ¬ m.touches n.landing) : w n.landing = .ok (some n.landed) := by
  rw [List.foldlM_append, Option.bind_eq_bind, Option.bind_eq_some_iff] at h
  obtain ⟨u, hu, h⟩ := h
  rw [List.foldlM_cons, Option.bind_eq_bind, Option.bind_eq_some_iff] at h
  obtain ⟨u', hu', h⟩ := h
  have hbefore : u n.landing = .ok none := by
    rw [saveAll?_apply hu fun m hm => hothers m (List.mem_append_left _ hm), hfree]
  rw [saveAll?_apply h fun m hm => hothers m (List.mem_append_right _ hm), save?_landing hu' hdelete hbefore]

end View

theorem Notes.IsKeyed.split {notes : Notes} (h : notes.IsKeyed) {n : Note} (hn : n ∈ notes.toList) :
    ∃ before after, notes.inPathOrder = before ++ n :: after ∧
      ∀ m ∈ before ++ after, m ∈ notes.toList ∧ m.path ≠ n.path := by
  obtain ⟨before, after, hsplit⟩ := List.append_of_mem (Notes.mem_inPathOrder.2 hn)
  have honly : notes.inPathOrder.filter (·.path = n.path) = [n] := by
    rw [h.filter_inPathOrder, h.mem_toList.1 hn]
    rfl
  rw [hsplit, List.filter_append, List.filter_cons_of_pos (by simp)] at honly
  have hlength := congrArg List.length honly
  simp only [List.length_append, List.length_cons, List.length_nil] at hlength
  have hbefore : before.filter (·.path = n.path) = [] := List.eq_nil_of_length_eq_zero (by omega)
  have hafter : after.filter (·.path = n.path) = [] := List.eq_nil_of_length_eq_zero (by omega)
  refine ⟨before, after, hsplit, fun m hm => ⟨Notes.mem_inPathOrder.1 ?_, ?_⟩⟩
  · rw [hsplit]
    rcases List.mem_append.1 hm with hm | hm <;> simp [hm]
  · rcases List.mem_append.1 hm with hm | hm
    · simpa using List.filter_eq_nil_iff.1 hbefore m hm
    · simpa using List.filter_eq_nil_iff.1 hafter m hm

/-! ## Terms -/

/-- A trimmed name without a NUL, operators or quotes around it. -/
@[mk_iff]
structure Text.IsFieldName (name : Text) : Prop where
  trimmed : name.trim = name
  ne_nil : name ≠ []
  nul : '\x00' ∉ name
  operators : ∀ c ∈ name, isOperatorChar c = false
  plain : isWrapped name = false

instance (name : Text) : Decidable name.IsFieldName :=
  decidable_of_iff (name.trim = name ∧ name ≠ [] ∧ '\x00' ∉ name ∧ name.all (!isOperatorChar ·) ∧
    isWrapped name = false) <| by simp [Text.isFieldName_iff]

@[mk_iff]
structure Text.IsFieldLiteral (literal : Text) : Prop where
  trimmed : literal.trim = literal
  ne_nil : literal ≠ []
  nul : '\x00' ∉ literal
  operator : ∀ c ∈ literal.head?, isOperatorChar c = false
  plain : isWrapped literal = false

instance (literal : Text) : Decidable literal.IsFieldLiteral :=
  decidable_of_iff (literal.trim = literal ∧ literal ≠ [] ∧ '\x00' ∉ literal ∧
    literal.head?.all (!isOperatorChar ·) ∧ isWrapped literal = false) <| by
      simp [Text.isFieldLiteral_iff, Option.all_eq_true]

def equalTo (name literal : Text) : Request := { Request.blank with fields := [name ++ '=' :: literal] }

section

variable {name literal : Text} (hname : name.IsFieldName) (hliteral : literal.IsFieldLiteral)

include hname hliteral

theorem fieldTerm_equal :
    fieldTerm (name ++ '=' :: literal) = .condition (.compare name .equal (operandOf literal)) := by
  have hterm := fieldTerm_compare .equal hname.operators hliteral.operator (by simp [hname.trimmed, hname.ne_nil])
    (by simp [hliteral.trimmed, hliteral.ne_nil])
  rw [hname.trimmed, hliteral.trimmed] at hterm
  simpa [Comparison.symbol, meant, hname.plain] using hterm

theorem conditions_equalTo :
    (equalTo name literal).conditions = [.compare name .equal (operandOf literal)] := by
  simp [Request.conditions, equalTo, Request.blank, Request.pathTerms, fieldTerm_equal hname hliteral,
    FieldTerm.condition?]

theorem nul_not_mem_equalTo : '\x00' ∉ (equalTo name literal).query := by
  refine Request.nul_not_mem_query fun term hterm => ?_
  obtain rfl : term = name ++ '=' :: literal := by
    simpa [Request.terms, equalTo, Request.blank, Request.pathTerms] using hterm
  simp [hname.nul, hliteral.nul]

theorem isAnswerable_equalTo [Engine] : (equalTo name literal).IsAnswerable where
  ofTerms := rfl
  notNone := by simp [conditions_equalTo hname hliteral]
  few := by simp [conditions_equalTo hname hliteral, greatestSelections]
  nulFree := nul_not_mem_equalTo hname hliteral
  readable := by simp [conditions_equalTo hname hliteral, Condition.patterns]

end

/-! ## Searching for one field -/

namespace Store

variable {s : Store} {hold : Hold} {found : Notes}

theorem asIds_eq_ok {cells : List Cell} {ids : List Int} (h : asIds cells = .ok ids) : cells = ids.map .integer := by
  unfold asIds at h
  induction cells generalizing ids with
  | nil =>
    rw [List.mapM_nil] at h
    rw [← Except.ok.inj h, List.map_nil]
  | cons c rest ih =>
    rw [List.mapM_cons] at h
    obtain ⟨id, hid, h⟩ := bind_eq_ok.1 h
    obtain ⟨more, hmore, h⟩ := bind_eq_ok.1 h
    obtain rfl := Except.ok.inj h
    rw [List.map_cons, ← ih hmore]
    cases c <;> simp_all

theorem runQuery_compare [Engine] {r : Request} {name : Text} {op : Comparison} {value : Operand}
    (hconditions : r.conditions = [.compare name op value]) (hnul : '\x00' ∉ r.query) (hread : hold.canRead)
    (h : s.runQuery hold r.query = .ok found) :
    ∃ ids, s.notesOf ids = .ok found ∧ ∀ id, id ∈ ids ↔
      ∃ row ∈ s.tagsOf id, row.name = .text name ∧ row.value.meets op (.ofOperand value) = true := by
  rw [runQuery_selections (by simp [hconditions]) (by simp [hconditions, greatestSelections]) hnul hread,
    hconditions] at h
  obtain ⟨cells, hcells, h⟩ := bind_eq_ok.1 h
  obtain ⟨ids, hids, hfound⟩ := bind_eq_ok.1 h
  have hrows : ((s.named name).filter fun row => row.value.meets op (.ofOperand value)).map (·.id) = cells :=
    Except.ok.inj hcells
  exact ⟨ids, hfound, mem_ids_of_named (hrows.trans (asIds_eq_ok hids))⟩

theorem get?_notesOf_single {path : Text} {r : RecordRow} (hr : s.recordsAt path = [r]) {n : Note}
    (hn : s.contents path = .ok (some n)) {ids : List Int} (hfound : s.notesOf ids = .ok found) :
    found.get? path = if r.id ∈ ids then some n else none := by
  have hget := get?_notesOf hfound path
  rw [contents_eq, hr, if_neg (by simp), assembled_eq, hr] at hn
  rw [recordsOf, hr] at hget
  by_cases hid : r.id ∈ ids
  · simp only [hid, decide_true, List.filter_cons_of_pos, List.filter_nil, List.cons_ne_nil, if_false, hn] at hget
    rw [if_pos hid]
    exact (Except.ok.inj hget).symm
  · simp only [hid, decide_false, Bool.false_eq_true, not_false_eq_true, List.filter_cons_of_neg, List.filter_nil,
      if_true] at hget
    rw [if_neg hid]
    exact (Except.ok.inj hget).symm

theorem value_tagRows {id : Int} {n : Note} {row : TagRow} (h : row ∈ tagRows id n) :
    row.value = .null ∨ ∃ w, row.value = Cell.ofValue w := by
  simp only [tagRows, List.mem_append, List.mem_map] at h
  rcases h with ⟨tag, _, rfl⟩ | ⟨⟨name, value⟩, _, rfl⟩
  · exact .inl rfl
  · exact .inr ⟨value, rfl⟩

theorem ofValue_eq_of_value? {w w' : FieldValue} (h : (Cell.ofValue w).value? = some w') :
    Cell.ofValue w = Cell.ofValue w' := by
  cases w with
  | text t => rw [← Option.some.inj h]
  | number x =>
    by_cases hx : x = .nan
    · simp [Cell.ofValue, Cell.ofNumber, hx, Cell.value?] at h
    · have hvalue : (Cell.ofValue (.number x)).value? = some (.number x) := by
        simp [Cell.ofValue, Cell.ofNumber, hx, Cell.value?]
      rw [← Option.some.inj (hvalue.symm.trans h)]

/-- A row as it was inserted holds against the literal of its field exactly if that was not rounded. -/
theorem meets_tagRow_iff {id : Int} {m : Note} {row : TagRow} (hrow : row ∈ tagRows id m) {literal : Text}
    (hliteral : literal.IsFieldLiteral) (hnearest : literal.IsReadNearest) {w : FieldValue}
    (hvalue : row.value.value? = some w) (hw : w.same (.read literal) = true) :
    row.value.meets .equal (.ofOperand (operandOf literal)) = true ↔ literal.IsExact := by
  rcases value_tagRows hrow with hnull | ⟨stored, hstored⟩
  · rw [hnull] at hvalue
    cases hvalue
  · rw [hstored] at hvalue ⊢
    rw [ofValue_eq_of_value? hvalue]
    exact meets_operandOf_iff hliteral.trimmed hliteral.plain hnearest hw

theorem not_meets_tagRow {id : Int} {m : Note} {row : TagRow} (hrow : row ∈ tagRows id m) {literal : Text}
    (h : ¬ literal.IsExact) : row.value.meets .equal (.ofOperand (operandOf literal)) = false := by
  rcases value_tagRows hrow with hnull | ⟨stored, hstored⟩
  · simp [hnull, Cell.meets]
  · rw [hstored, not_meets_operandOf h]

theorem get?_search_equalTo [Engine] {name literal path : Text} (hname : name.IsFieldName) (hliteral : literal.IsFieldLiteral)
    (hnearest : literal.IsReadNearest) (hwritten : s.IsWrittenAt path) {n : Note}
    (hn : s.contents path = .ok (some n)) (hhas : n.Has (name, .read literal)) (hread : hold.canRead)
    (h : (s.search hold (equalTo name literal)).result = .ok found) :
    (literal.IsExact → found.get? path = some n) ∧ (¬ literal.IsExact → found.get? path = none) := by
  rw [search_result rfl (by simp [equalTo, Request.blank])] at h
  obtain ⟨ids, hfound, hids⟩ :=
    runQuery_compare (conditions_equalTo hname hliteral) (nul_not_mem_equalTo hname hliteral) hread h
  obtain ⟨r, m, hr, htags⟩ : ∃ r m, s.recordsAt path = [r] ∧ s.tagsOf r.id = tagRows r.id m := by
    refine hwritten.resolve_left fun hnone => ?_
    rw [contents_eq, if_pos hnone] at hn
    cases hn
  rw [get?_notesOf_single hr hn hfound]
  constructor
  · intro hexact
    obtain ⟨⟨name', w⟩, hw, hsame⟩ := hhas
    obtain ⟨rfl, hw'⟩ : name' = name ∧ w.same (.read literal) = true := by simpa [Field.same] using hsame
    obtain ⟨r', hr', row, hrow, hrowname, hvalue⟩ := sources_of_contents hn _ hw
    rw [hr, List.mem_singleton] at hr'
    subst hr'
    have hcell : row.name = .text name' := by
      cases hcell : row.name <;> simp_all [Cell.asText?]
    rw [if_pos]
    exact (hids r'.id).2 ⟨row, hrow, hcell, (meets_tagRow_iff (htags ▸ hrow) hliteral hnearest hvalue hw').2 hexact⟩
  · intro hrounded
    rw [if_neg]
    intro hid
    obtain ⟨row, hrow, -, hmeets⟩ := (hids r.id).1 hid
    rw [not_meets_tagRow (htags ▸ hrow) hrounded] at hmeets
    cases hmeets

end Store

/-! ## From a page to a query -/

theorem Note.IsFound.hasNoNaN {n : Note} (h : n.IsFound) : n.HasNoNaN := by
  intro f hf hnan
  have hwritable := (h.fields f hf).value
  rw [hnan] at hwritable
  cases hwritable

theorem readPage_has_field {page : Text} {before after : List Text} {name literal : Text} (hname : name.IsFieldName)
    (hlines : page.lines = before ++ headerLine (name ++ " = ".toList ++ literal) :: after) {d : Draft}
    (hd : (Draft.start.through before).2 = d) (hstage : d.stage = .header) (hpath : d.note.path ≠ []) :
    ∃ notes n, readPage page = .ok notes ∧ notes.get? d.note.path = some n ∧ n.Has (name, .read literal) := by
  have hequals : '=' ∉ name ++ [' '] := by
    have hnone : '=' ∉ name := fun hmem => by simpa [isOperatorChar] using hname.operators _ hmem
    simpa using hnone
  have htrim : Text.trim (name ++ [' ']) = name := by
    rw [Text.trim_append_blanks (by simp [Text.isBlankChar]), hname.trimmed]
  have hvalue : FieldValue.read (' ' :: literal) = .read literal := by
    rw [← FieldValue.read_trim, Text.trim_cons_blank rfl, FieldValue.read_trim]
  have hlines' : page.lines = before ++ headerLine ((name ++ [' ']) ++ '=' :: ' ' :: literal) :: after := by
    rw [hlines]
    simp
  obtain ⟨notes, n, hread, hget, hhas⟩ :=
    readPage_has hequals (by rw [htrim]; exact hname.ne_nil) hlines' hd hstage hpath
  rw [htrim, hvalue] at hhas
  exact ⟨notes, n, hread, hget, hhas⟩

theorem Store.save_landing {s : Store} {around : Surroundings} {notes : Notes} {report : Report} {n : Note}
    (hkeyed : notes.IsKeyed) (hnan : ∀ m ∈ notes.toList, m.HasNoNaN) (hn : n ∈ notes.toList)
    (hdelete : n.directive ≠ .delete) (hfree : s.idsAt n.landing = [])
    (hothers : ∀ m ∈ notes.toList, m.path ≠ n.path → ¬ m.touches n.landing)
    (h : (s.save around notes).result = .ok report) :
    (s.save around notes).store.contents n.landing = .ok (some n.landed) ∧
      (s.save around notes).store.IsWrittenAt n.landing := by
  obtain ⟨b, hout, hsave⟩ := save_eq_ok h
  obtain ⟨before, after, hsplit, hapart⟩ := hkeyed.split hn
  have hview := Saving.saveAll_view hout fun m hm => hnan m (Notes.mem_inPathOrder.1 hm)
  rw [hsplit] at hview
  rw [hsave]
  refine ⟨View.saveAll?_landing hview hdelete (contents_eq_none.2 hfree) fun m hm => ?_, ?_⟩
  · exact hothers m (hapart m hm).1 (hapart m hm).2
  · have hwritten := (respects_isWrittenAt around n.landing).saveAll notes.inPathOrder s.newBatch
    rw [hout] at hwritten
    exact hwritten (.inl (idsAt_eq_nil.1 hfree))

theorem Store.IsReadable.save {s : Store} (h : s.IsReadable) (around : Surroundings) (notes : Notes) :
    (s.save around notes).store.IsReadable := by
  rcases s.store_save around notes with hsame | hreached
  · rwa [hsame]
  · rw [hreached]
    exact (respects_isReadable around).saveAll notes.inPathOrder s.newBatch h

/-- A note with a field in its header, saved from its page at a free path of any store, is found by a term with the
same literal exactly if that is not an integer that no double is. The search succeeds where the rows of the store can
be read. -/
theorem search_agrees_with_page [Engine] {page : Text} {before after : List Text} {name literal : Text} {d : Draft}
    (hname : name.IsFieldName) (hliteral : literal.IsFieldLiteral) (hnearest : literal.IsReadNearest)
    (hlines : page.lines = before ++ headerLine (name ++ " = ".toList ++ literal) :: after)
    (hd : (Draft.start.through before).2 = d) (hstage : d.stage = .header) (hpath : d.note.path ≠ []) :
    ∃ notes n, readPage page = .ok notes ∧ notes.get? d.note.path = some n ∧
      ∀ {s : Store} {around : Surroundings} {report : Report} {hold : Hold},
        n.directive ≠ .delete → s.idsAt n.landing = [] →
        (∀ m ∈ notes.toList, m.path ≠ n.path → ¬ m.touches n.landing) →
        (s.save around notes).result = .ok report → hold.canRead →
        (∀ found, ((s.save around notes).store.search hold (equalTo name literal)).result = .ok found →
          (literal.IsExact → found.get? n.landing = some n.landed) ∧
          (¬ literal.IsExact → found.get? n.landing = none)) ∧
        (s.IsReadable →
          ∃ found, ((s.save around notes).store.search hold (equalTo name literal)).result = .ok found) := by
  obtain ⟨notes, n, hread, hget, hhas⟩ := readPage_has_field hname hlines hd hstage hpath
  obtain ⟨hkeyed, hfound⟩ := readPage_isFound hread
  have hnan : ∀ m ∈ notes.toList, m.HasNoNaN := fun m hm => (hfound _ m (hkeyed.mem_toList.1 hm)).hasNoNaN
  refine ⟨notes, n, hread, hget, fun {s around report hold} hdelete hfree hothers hsaved hcanRead => ⟨?_, ?_⟩⟩
  · obtain ⟨hcontents, hwritten⟩ :=
      Store.save_landing hkeyed hnan (Notes.mem_toList.2 ⟨_, hget⟩) hdelete hfree hothers hsaved
    exact fun found => Store.get?_search_equalTo hname hliteral hnearest hwritten hcontents hhas.landed hcanRead
  · intro hreadable
    obtain ⟨_, found, hresult, -⟩ := Store.search_ids (hreadable.save around notes)
      (isAnswerable_equalTo hname hliteral) ⟨hcanRead, by simp [equalTo, Request.blank]⟩
    exact ⟨found, hresult⟩

def sized : Text := "\\ p\n\\ size = 2.5\n".toList

def sizedNote : Note := ⟨['p'], [], [], [("size".toList, .read "2.5".toList)], .insert⟩

theorem isReadNearest_half : Text.IsReadNearest "2.5".toList := by
  intro k hk _
  have hscan : Numeral.scan? "2.5".toList = some (⟨false, ['2'], some ['5'], none⟩, []) := by decide
  rw [hscan] at hk
  cases hk
  decide +kernel

theorem isExact_half : Text.IsExact "2.5".toList := by
  intro x _ n hn
  have hreal : Cell.ofOperand (.numeral "2.5".toList) = .real (.ofRatio false 5 2) := by decide +kernel
  rw [hreal] at hn
  cases hn

theorem search_agrees_with_page_sized :
    Text.IsFieldName "size".toList ∧ Text.IsFieldLiteral "2.5".toList ∧ Text.IsReadNearest "2.5".toList ∧
      sized.lines = ["\\ p".toList] ++ headerLine ("size".toList ++ " = ".toList ++ "2.5".toList) :: [] ∧
      (Draft.start.through ["\\ p".toList]).2 = ⟨.header, .blank ['p']⟩ ∧ (Note.blank ['p']).path ≠ [] ∧
      sizedNote.directive ≠ .delete ∧ Store.fresh.idsAt sizedNote.landing = [] ∧
      (Store.fresh.save undisturbed (.single ['p'] sizedNote)).result = .ok ⟨1, 0, 0, 0, 0, 0⟩ ∧
      ∀ found, ((Store.fresh.save undisturbed (.single ['p'] sizedNote)).store.search .free
        (equalTo "size".toList "2.5".toList)).result = .ok found → found.get? ['p'] = some sizedNote := by
  have hname : Text.IsFieldName "size".toList := by decide
  have hliteral : Text.IsFieldLiteral "2.5".toList := by decide
  have hlines : sized.lines
      = ["\\ p".toList] ++ headerLine ("size".toList ++ " = ".toList ++ "2.5".toList) :: [] := by decide
  have hd : (Draft.start.through ["\\ p".toList]).2 = ⟨.header, .blank ['p']⟩ := by decide
  have hpath : (Note.blank ['p']).path ≠ [] := by decide
  have hread : readPage sized = .ok (.single ['p'] sizedNote) := by decide +kernel
  have hsaved : (Store.fresh.save undisturbed (.single ['p'] sizedNote)).result = .ok ⟨1, 0, 0, 0, 0, 0⟩ := by
    decide +kernel
  obtain ⟨notes, n, hnotes, hn, hsearch⟩ :=
    search_agrees_with_page hname hliteral isReadNearest_half hlines hd rfl hpath
  obtain rfl : .single ['p'] sizedNote = notes := Except.ok.inj (hread.symm.trans hnotes)
  obtain rfl : sizedNote = n := Option.some.inj hn
  have hothers : ∀ m ∈ (Notes.single ['p'] sizedNote).toList, m.path ≠ sizedNote.path →
      ¬ m.touches sizedNote.landing :=
    fun m hm hne => absurd (congrArg Note.path (List.mem_singleton.1 hm)) hne
  obtain ⟨hfound, -⟩ := @hsearch .fresh undisturbed _ .free (by decide) (by decide) hothers hsaved rfl
  exact ⟨hname, hliteral, isReadNearest_half, hlines, hd, hpath, by decide, by decide, hsaved,
    fun found h => (hfound found h).1 isExact_half⟩

def rounded : Text := "9007199254740993".toList

def roundedPage : Text := "\\ p\n\\ n = 9007199254740993\n".toList

def roundedNotes : Notes := .single ['p'] ⟨['p'], [], [], [(['n'], .number (.ofNat 9007199254740992))], .insert⟩

/-- The page has the double below, to which the integer of the query is not equal. -/
theorem search_misses_rounded :
    Text.IsFieldName ['n'] ∧ rounded.IsFieldLiteral ∧
      roundedPage.lines = ["\\ p".toList, headerLine (['n'] ++ " = ".toList ++ rounded)] ∧
      readPage roundedPage = .ok roundedNotes ∧ Store.fresh.idsAt ['p'] = [] ∧
      (Store.fresh.save undisturbed roundedNotes).result = .ok ⟨1, 0, 0, 0, 0, 0⟩ ∧
      ((Store.fresh.save undisturbed roundedNotes).store.search .free (equalTo ['n'] rounded)).result = .ok .empty := by
  decide +kernel

end Notebook
