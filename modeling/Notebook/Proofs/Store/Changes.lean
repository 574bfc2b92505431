import Notebook.Proofs.Store.Contents

/-! # Deleting and inserting notes

Each of the two changes what is stored at one path and at no other.
-/

namespace Notebook.Store

/-! ## Deleting -/

theorem tagsOf_delete {s : Store} {ids : List Int} {id : Int} (h : id ∉ ids) :
    (s.delete ids).tagsOf id = s.tagsOf id := by
  simp only [tagsOf, delete, deleteTags, deleteRecords, List.filter_filter]
  refine List.filter_congr fun row _ => ?_
  -- A row of the record has its id, which is not among those deleted.
  by_cases hrow : TagRow.isOf [id] row
  · obtain ⟨_, hid, hrow'⟩ := isOf_iff.1 hrow
    rw [List.mem_singleton.1 hid] at hrow'
    have : ¬ TagRow.isOf ids row := fun hof => by
      obtain ⟨_, hmem, hrow''⟩ := isOf_iff.1 hof
      simp_all
    simp [this]
  · simp [hrow]

theorem recordsAt_delete_self (s : Store) (path : Text) :
    (s.delete (s.idsAt path)).recordsAt path = [] := by
  simp only [recordsAt, delete, deleteTags, deleteRecords, List.filter_filter, List.filter_eq_nil_iff]
  intro r hr
  simp [id_mem_idsAt hr]

theorem agreeAt_delete (s : Store) {path q : Text} (h : q ≠ path) :
    AgreeAt q s (s.delete (s.idsAt path)) where
  records := by
    simp only [recordsAt, delete, deleteTags, deleteRecords, List.filter_filter]
    refine List.filter_congr fun r hr => ?_
    by_cases hq : r.path = .text q <;> simp [id_mem_idsAt hr, hq, h]
  tags r hr := by
    obtain ⟨hmem, hpath⟩ := List.mem_filter.1 hr
    apply tagsOf_delete
    rw [id_mem_idsAt hmem]
    simp_all

theorem contents_delete_self (s : Store) (path : Text) :
    (s.delete (s.idsAt path)).contents path = .ok none := by
  rw [contents_eq, if_pos (recordsAt_delete_self s path)]

theorem contents_delete (s : Store) (path : Text) :
    (s.delete (s.idsAt path)).contents = Function.update s.contents path (.ok none) := by
  funext q
  by_cases h : q = path
  · subst h
    rw [Function.update_self, contents_delete_self]
  · rw [Function.update_of_ne h, (agreeAt_delete s h).contents_eq]

/-! ## Inserting -/

theorem insert_eq_ok {s t : Store} {n : Note} (h : s.insert n = .ok t) :
    s.violated? (.text n.path) (.text n.text) = none ∧
      t = { (s.addRecord (.text n.path) (.text n.text)).deleteTags [s.nextId] with
        tags := ((s.addRecord (.text n.path) (.text n.text)).deleteTags [s.nextId]).tags
          ++ tagRows s.nextId n } := by
  unfold insert at h
  split at h
  · simp at h
  · exact ⟨‹_›, (Except.ok.inj h).symm⟩

theorem isOf_tagRows {id : Int} {n : Note} {row : TagRow} (h : row ∈ tagRows id n) :
    row.id = .integer id := by
  simp only [tagRows, List.mem_append, List.mem_map] at h
  rcases h with ⟨tag, _, rfl⟩ | ⟨⟨name, value⟩, _, rfl⟩ <;> rfl

theorem placeRecord_perm {row : RecordRow} {rows : List RecordRow} (hnew : ∀ r ∈ rows, r.id ≠ row.id) :
    (placeRecord row rows).Perm (row :: rows) := by
  fun_induction placeRecord row rows with
  | case1 => exact .refl _
  | case2 => exact .refl _
  | case3 first rest _ _ ih =>
    exact ((ih fun r hr => hnew r (.tail _ hr)).cons first).trans (.swap row first rest)
  | case4 first rest hnot hnot' =>
    have hne := hnew first (.head _)
    omega

theorem filter_placeRecord {row : RecordRow} {p : RecordRow → Bool} (h : p row = false) (rows : List RecordRow) :
    (placeRecord row rows).filter p = rows.filter p := by
  fun_induction placeRecord row rows with
  | case1 => simp [h]
  | case2 => simp [h]
  | case3 first rest _ _ ih => rw [List.filter_cons, List.filter_cons, ih]
  | case4 => rfl

theorem records_insert_perm {s t : Store} {n : Note} (h : s.insert n = .ok t) :
    t.records.Perm (⟨s.nextId, .text n.path, .text n.text⟩ :: s.records) := by
  obtain ⟨-, rfl⟩ := insert_eq_ok h
  exact placeRecord_perm fun _ hr => id_ne_nextId hr

theorem forall_records_insert {s t : Store} {n : Note} (h : s.insert n = .ok t) {p : RecordRow → Prop} :
    (∀ r ∈ t.records, p r) ↔ p ⟨s.nextId, .text n.path, .text n.text⟩ ∧ ∀ r ∈ s.records, p r := by
  simp only [(records_insert_perm h).mem_iff, List.forall_mem_cons]

theorem recordsAt_insert_self {s t : Store} {n : Note} (h : s.insert n = .ok t) (hnone : s.recordsAt n.path = []) :
    t.recordsAt n.path = [⟨s.nextId, .text n.path, .text n.text⟩] := by
  apply List.perm_singleton.1
  have hperm := (records_insert_perm h).filter fun r => r.path = .text n.path
  rwa [List.filter_cons_of_pos (by simp), ← recordsAt, ← recordsAt, hnone] at hperm

theorem recordsAt_insert_of_ne {s t : Store} {n : Note} (h : s.insert n = .ok t) {q : Text} (hq : q ≠ n.path) :
    t.recordsAt q = s.recordsAt q := by
  obtain ⟨-, rfl⟩ := insert_eq_ok h
  exact filter_placeRecord (by simpa using Ne.symm hq) s.records

theorem tagsOf_insert_self {s t : Store} {n : Note} (h : s.insert n = .ok t) :
    t.tagsOf s.nextId = tagRows s.nextId n := by
  obtain ⟨-, rfl⟩ := insert_eq_ok h
  have own : (tagRows s.nextId n).filter (TagRow.isOf [s.nextId]) = tagRows s.nextId n :=
    List.filter_eq_self.2 fun row hrow => isOf_iff.2 ⟨_, by simp, isOf_tagRows hrow⟩
  simp [tagsOf, deleteTags, addRecord, List.filter_append, own]

theorem tagsOf_insert_of_ne {s t : Store} {n : Note} (h : s.insert n = .ok t) {id : Int}
    (hid : id ≠ s.nextId) : t.tagsOf id = s.tagsOf id := by
  obtain ⟨-, rfl⟩ := insert_eq_ok h
  have others : (tagRows s.nextId n).filter (TagRow.isOf [id]) = [] := by
    refine List.filter_eq_nil_iff.2 fun row hrow hof => ?_
    obtain ⟨_, hmem, hrow'⟩ := isOf_iff.1 hof
    rw [isOf_tagRows hrow, List.mem_singleton.1 hmem] at hrow'
    exact hid (Cell.integer.inj hrow').symm
  have cleared : (s.delete [s.nextId]).tagsOf id = s.tagsOf id := tagsOf_delete (by simpa using hid)
  simp only [tagsOf, delete, deleteTags, deleteRecords] at cleared
  simp [tagsOf, deleteTags, addRecord, List.filter_append, others, cleared]

theorem agreeAt_insert {s t : Store} {n : Note} (h : s.insert n = .ok t) {q : Text} (hq : q ≠ n.path) :
    AgreeAt q s t where
  records := recordsAt_insert_of_ne h hq
  tags _ hr := tagsOf_insert_of_ne h (id_ne_nextId (List.mem_filter.1 hr).1)

/-! ## Reading back what was inserted -/

theorem foldlM_tag_rows (id : Int) (tags : List Text) (n : Note) :
    (tags.map fun tag => (⟨.integer id, .text tag, .null⟩ : TagRow)).foldlM withTagRow n
      = .ok { n with tags := tags.foldl Note.addTo n.tags } := by
  induction tags generalizing n with
  | nil => rfl
  | cons tag rest ih => exact ih { n with tags := Note.addTo n.tags tag }

theorem value?_ofValue {value : FieldValue} (h : value ≠ .number .nan) :
    (Cell.ofValue value).value? = some value := by
  cases value with
  | text t => rfl
  | number x =>
    have hx : x ≠ .nan := fun hx => h (by rw [hx])
    simp [Cell.ofValue, Cell.ofNumber, Cell.value?, hx]

theorem withTagRow_field (id : Int) (f : Field) (n : Note) :
    withTagRow n ⟨.integer id, .text f.1, Cell.ofValue f.2⟩ = .ok (n.storeField f) := by
  by_cases h : f.2 = .number .nan
  · simp [withTagRow, Note.storeField, h, Cell.asText?, Cell.ofValue, Cell.ofNumber, Cell.value?, bind,
      Except.bind, pure, Except.pure]
  · simp [withTagRow, Note.storeField, h, Cell.asText?, value?_ofValue h, bind, Except.bind, pure, Except.pure]

theorem foldlM_field_rows (id : Int) (fields : List Field) (n : Note) :
    (fields.map fun f => (⟨.integer id, .text f.1, Cell.ofValue f.2⟩ : TagRow)).foldlM withTagRow n
      = .ok (fields.foldl Note.storeField n) := by
  induction fields generalizing n with
  | nil => rfl
  | cons f rest ih =>
    rw [List.map_cons, List.foldlM_cons, withTagRow_field]
    exact ih _

theorem foldlM_tagRows (id : Int) (n m : Note) :
    (tagRows id n).foldlM withTagRow m
      = .ok (n.fields.foldl Note.storeField { m with tags := n.tags.foldl Note.addTo m.tags }) := by
  rw [tagRows, List.foldlM_append, foldlM_tag_rows]
  exact foldlM_field_rows id n.fields _

theorem contents_insert_self {s t : Store} {n : Note} (h : s.insert n = .ok t)
    (hnone : s.contents n.path = .ok none) : t.contents n.path = .ok (some n.kept) := by
  have hrows := recordsAt_insert_self h (idsAt_eq_nil.1 (contents_eq_none.1 hnone))
  have hread : t.assembled n.path = .ok n.kept := by
    simp only [assembled, hrows, List.foldlM_cons, List.foldlM_nil, tagsOf_insert_self h, bind_pure]
    exact foldlM_tagRows s.nextId n ((Note.blank n.path).setText n.text)
  rw [contents_eq, if_neg (by simp [hrows]), hread]
  rfl

theorem contents_insert_kept {s t : Store} {n : Note} (h : s.insert n = .ok t)
    (hnone : s.contents n.path = .ok none) :
    t.contents = Function.update s.contents n.path (.ok (some n.kept)) := by
  funext q
  by_cases hq : q = n.path
  · subst hq
    rw [Function.update_self, contents_insert_self h hnone]
  · rw [Function.update_of_ne hq, (agreeAt_insert h hq).contents_eq]

theorem contents_insert {s t : Store} {n : Note} (h : s.insert n = .ok t)
    (hnone : s.contents n.path = .ok none) (hnan : n.HasNoNaN) :
    t.contents = Function.update s.contents n.path (.ok (some n.normal)) := by
  rw [contents_insert_kept h hnone, Note.kept_eq_normal hnan]

end Notebook.Store
