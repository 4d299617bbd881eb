import Mathlib

/-! Keyset pagination: a sorted table is read page by page, and the cursor of a page's last row selects
the rows of the next one. The pages are the table exactly when every cursor parts the row that it comes
from from the next row. -/

namespace ProxyPay.Library.Keyset

universe u v w

variable {α : Type u} {γ : Type v}

structure Page (α : Type u) (γ : Type v) where
  rows : List α
  nextCursor : Option γ

variable (follows : γ → α → Bool) (cursorOf : α → γ) (limit : ℕ) (rows : List α)

/-- The rows that a cursor selects. -/
def selected : Option γ → List α
  | none => rows
  | some cursor => rows.filter (follows cursor)

/-- One row more than the limit is read, which tells whether there is a next page. -/
def page (cursor : Option γ) : Page α γ :=
  let found := (selected follows rows cursor).take (limit + 1)
  ⟨found.take limit, if limit < found.length then (found.take limit).getLast?.map cursorOf else none⟩

/-- The rows of all pages; none where a page is refused or there are more than this many. -/
def collect (fetch : Option γ → Option (Page α γ)) : ℕ → Option γ → Option (List α)
  | 0, _ => none
  | pages + 1, cursor =>
    match fetch cursor with
    | none => none
    | some page =>
      match page.nextCursor with
      | none => some page.rows
      | some next => (collect fetch pages (some next)).map (page.rows ++ ·)

section

variable {α : Type u} {γ : Type v} {fetch : Option γ → Option (Page α γ)}

theorem collect_two {rows rest : List α} {next : γ} (first : fetch none = some ⟨rows, some next⟩)
    (second : fetch (some next) = some ⟨rest, none⟩) : collect fetch 2 none = some (rows ++ rest) := by
  simp only [collect, first, second, Option.map_some]

/-- Only the first page and those of the rows' cursors are read. -/
theorem collect_congr {follows : γ → α → Bool} {cursorOf : α → γ} {limit : ℕ} {rows : List α}
    (first : fetch none = some (page follows cursorOf limit rows none))
    (later : ∀ row, fetch (some (cursorOf row)) =
      some (page follows cursorOf limit rows (some (cursorOf row)))) (pages : ℕ) :
    collect fetch pages none = collect (fun cursor => some (page follows cursorOf limit rows cursor)) pages none := by
  suffices same : ∀ cursor, (cursor = none ∨ ∃ row, cursor = some (cursorOf row)) →
      collect fetch pages cursor =
        collect (fun cursor => some (page follows cursorOf limit rows cursor)) pages cursor from
    same none (Or.inl rfl)
  induction pages with
  | zero => exact fun _ _ => rfl
  | succ pages ih =>
    intro cursor known
    have read : fetch cursor = some (page follows cursorOf limit rows cursor) := by
      rcases known with rfl | ⟨row, rfl⟩
      · exact first
      · exact later row
    simp only [collect, read]
    split
    · rfl
    · rename_i next is_next
      rw [ih (some next)]
      right
      simp only [page] at is_next
      split at is_next
      · rw [Option.map_eq_some_iff] at is_next
        obtain ⟨row, -, made⟩ := is_next
        exact ⟨row, by rw [made]⟩
      · cases is_next

end

/-- Whoever is behind a cursor has everyone behind him there. -/
def Sorted : Prop :=
  rows.Pairwise fun first second => ∀ cursor, follows cursor first → follows cursor second

/-- The cursor of a row that ends a page leaves the row out and selects the next one. -/
def Parts : Prop :=
  ∀ done last next rest, rows = done ++ last :: next :: rest → limit ∣ done.length + 1 →
    follows (cursorOf last) last = false ∧ follows (cursorOf last) next = true

variable {follows cursorOf limit rows}

theorem filter_of_parts {done rest : List α} {last next : α} {cursor : γ}
    (sorted : Sorted follows (done ++ last :: next :: rest)) (out : follows cursor last = false)
    (behind : follows cursor next = true) :
    (done ++ last :: next :: rest).filter (follows cursor) = next :: rest := by
  unfold Sorted at sorted
  rw [List.pairwise_append] at sorted
  obtain ⟨-, after, before⟩ := sorted
  rw [List.pairwise_cons, List.pairwise_cons] at after
  obtain ⟨-, later, -⟩ := after
  have none_before : done.filter (follows cursor) = [] := by grind [List.filter_eq_nil_iff]
  have all_after : rest.filter (follows cursor) = rest := by simp_all
  rw [List.filter_append, none_before, List.nil_append, List.filter_cons_of_neg (by simp [out]),
    List.filter_cons_of_pos behind, all_after]

/-- More rows than a page holds: those before its last one, that one, the next one and the others. -/
theorem exists_last {limit : ℕ} (positive : 0 < limit) {rest : List α} (more : limit < rest.length) :
    ∃ front last next others, rest = front ++ last :: next :: others ∧ front.length + 1 = limit := by
  obtain ⟨before, rfl⟩ : ∃ before, limit = before + 1 := ⟨limit - 1, by omega⟩
  refine ⟨rest.take before, rest[before], rest[before + 1], rest.drop (before + 2), ?_, ?_⟩
  · rw [← List.drop_eq_getElem_cons, ← List.drop_eq_getElem_cons, List.take_append_drop]
  · rw [List.length_take]
    omega

theorem page_of_more {front others : List α} {last next : α} {cursor : Option γ}
    (here : selected follows rows cursor = front ++ last :: next :: others)
    (full : front.length + 1 = limit) :
    page follows cursorOf limit rows cursor = ⟨front ++ [last], some (cursorOf last)⟩ := by
  have found : (front ++ last :: next :: others).take (limit + 1) = front ++ [last, next] := by
    have two : limit + 1 - front.length = 2 := by omega
    rw [List.take_append, List.take_of_length_le (by omega), two]
    rfl
  have kept : (front ++ [last, next]).take limit = front ++ [last] := by
    have one : limit - front.length = 1 := by omega
    rw [List.take_append, List.take_of_length_le (by omega), one]
    rfl
  have more : limit < (front ++ [last, next]).length := by
    simp only [List.length_append, List.length_cons, List.length_nil]
    omega
  simp only [page, here, found, kept, if_pos more, List.getLast?_concat, Option.map_some]

theorem page_of_last {cursor : Option γ} (fits : (selected follows rows cursor).length ≤ limit) :
    page follows cursorOf limit rows cursor = ⟨selected follows rows cursor, none⟩ := by
  have found : (selected follows rows cursor).take (limit + 1) = selected follows rows cursor :=
    List.take_of_length_le (by omega)
  simp only [page, found, List.take_of_length_le fits, if_neg (Nat.not_lt.mpr fits)]

/-- A page read behind whole pages is the last one, or the rows behind it are read with its cursor. -/
theorem page_step (positive : 0 < limit) (sorted : Sorted follows rows)
    (parts : Parts follows cursorOf limit rows) {done rest : List α} {cursor : Option γ}
    (split : rows = done ++ rest) (whole : limit ∣ done.length)
    (here : selected follows rows cursor = rest) :
    (rest.length ≤ limit ∧ page follows cursorOf limit rows cursor = ⟨rest, none⟩) ∨
      ∃ front last next others, rest = front ++ last :: next :: others ∧ front.length + 1 = limit ∧
        page follows cursorOf limit rows cursor = ⟨front ++ [last], some (cursorOf last)⟩ ∧
        rows = (done ++ front ++ [last]) ++ next :: others ∧
        limit ∣ (done ++ front ++ [last]).length ∧
        selected follows rows (some (cursorOf last)) = next :: others := by
  by_cases more : limit < rest.length
  · right
    obtain ⟨front, last, next, others, rfl, full⟩ := exists_last positive more
    have boundary : limit ∣ (done ++ front).length + 1 := by simp_all [List.length_append, Nat.add_assoc]
    rw [← List.append_assoc] at split
    obtain ⟨out, behind⟩ := parts (done ++ front) last next others split boundary
    refine ⟨front, last, next, others, rfl, full, page_of_more here full, ?_, ?_, ?_⟩
    · rw [split, List.append_assoc _ [last], List.singleton_append]
    · rwa [List.length_append, List.length_singleton]
    · rw [selected, split]
      exact filter_of_parts (split ▸ sorted) out behind
  · left
    refine ⟨Nat.not_lt.mp more, ?_⟩
    rw [← here]
    exact page_of_last (here ▸ Nat.not_lt.mp more)

/-- Where every cursor parts its row from the next one, the pages behind the rows read so far are the
remaining rows. -/
theorem collect_rest (positive : 0 < limit) (sorted : Sorted follows rows)
    (parts : Parts follows cursorOf limit rows) {pages : ℕ} {done rest : List α} {cursor : Option γ}
    (split : rows = done ++ rest) (whole : limit ∣ done.length)
    (here : selected follows rows cursor = rest) (enough : rest.length < pages) :
    collect (fun cursor => some (page follows cursorOf limit rows cursor)) pages cursor = some rest := by
  induction pages generalizing done rest cursor with
  | zero => exact absurd enough (Nat.not_lt_zero _)
  | succ pages ih =>
    rcases page_step positive sorted parts split whole here with
      ⟨-, turn⟩ | ⟨front, last, next, others, rfl, -, turn, read, boundary, later⟩
    · simp only [collect, turn]
    · have rest_read := ih read boundary later (by
        simp only [List.length_append, List.length_cons] at enough ⊢
        omega)
      simp only [collect, turn, rest_read, Option.map_some, List.append_assoc, List.singleton_append]

/-- The first row that is read is the first one selected. -/
theorem head_of_collect (positive : 0 < limit) {pages : ℕ} {cursor : Option γ} {first : α} {others : List α}
    (read : collect (fun cursor => some (page follows cursorOf limit rows cursor)) pages cursor =
      some (first :: others)) :
    ∃ rest, selected follows rows cursor = first :: rest := by
  cases pages with
  | zero => cases read
  | succ pages =>
    rcases here : selected follows rows cursor with _ | ⟨row, rest⟩
    · simp_all [page_of_last, collect, Option.some.injEq]
    · obtain ⟨before, rfl⟩ : ∃ before, limit = before + 1 := ⟨limit - 1, by omega⟩
      have begins : ∃ kept, (page follows cursorOf (before + 1) rows cursor).rows = row :: kept := by
        simp only [page, here, List.take_succ_cons, List.cons.injEq, exists_and_left, exists_eq',
          and_true]
      obtain ⟨kept, begins⟩ := begins
      simp only [collect] at read
      split at read
      · simp_all
      · rw [Option.map_eq_some_iff] at read
        obtain ⟨later, -, joined⟩ := read
        rw [begins, List.cons_append, List.cons.injEq] at joined
        exact ⟨rest, by rw [joined.1]⟩

/-- A cursor that selects the rows from the next one on parts it from the rows before. -/
theorem parts_of_selected {done rest others : List α} {last next : α} {cursor : γ}
    (distinct : (done ++ last :: next :: others).Nodup)
    (here : (done ++ last :: next :: others).filter (follows cursor) = next :: rest) :
    follows cursor last = false ∧ follows cursor next = true := by
  have selects : follows cursor next = true :=
    List.of_mem_filter (here ▸ List.mem_cons_self : next ∈ List.filter _ _)
  refine ⟨?_, selects⟩
  by_contra chosen
  have split : done ++ last :: next :: others = (done ++ [last]) ++ next :: others := by simp
  rw [split, List.filter_append, List.filter_append, List.filter_cons_of_pos (by simpa using chosen)] at here
  rw [split, List.nodup_append] at distinct
  have member : next ∈ done ++ [last] := by
    rcases before : done.filter (follows cursor) with _ | ⟨row, kept⟩
    · rw [before] at here
      simp only [List.filter_nil, List.nil_append, List.cons_append, List.cons.injEq] at here
      simp [here.1]
    · rw [before] at here
      simp only [List.cons_append, List.cons.injEq] at here
      have kept_row : row ∈ done.filter (follows cursor) := before ▸ List.mem_cons_self
      rw [here.1] at kept_row
      exact List.mem_append_left _ (List.mem_of_mem_filter kept_row)
  exact distinct.2.2 next member next List.mem_cons_self rfl

theorem parts_of_collect (positive : 0 < limit) (sorted : Sorted follows rows) (distinct : rows.Nodup)
    {pages : ℕ} {done rest : List α} {cursor : Option γ}
    (split : rows = done ++ rest) (whole : limit ∣ done.length)
    (here : selected follows rows cursor = rest)
    (read : collect (fun cursor => some (page follows cursorOf limit rows cursor)) pages cursor = some rest) :
    ∀ before last next others, rows = before ++ last :: next :: others → done.length ≤ before.length →
      limit ∣ before.length + 1 →
      follows (cursorOf last) last = false ∧ follows (cursorOf last) next = true := by
  intro before last next others at_boundary later boundary
  induction pages generalizing done rest cursor with
  | zero => cases read
  | succ pages ih =>
    have apart : limit ≤ before.length + 1 - done.length :=
      Nat.le_of_dvd (by omega) (Nat.dvd_sub boundary whole)
    have length : (done ++ rest).length = (before ++ last :: next :: others).length := by
      rw [← split, at_boundary]
    simp only [List.length_append, List.length_cons] at length
    have more : limit < rest.length := by omega
    obtain ⟨front, mine, follower, behind, rfl, full⟩ := exists_last positive more
    have turn : page follows cursorOf limit rows cursor = ⟨front ++ [mine], some (cursorOf mine)⟩ :=
      page_of_more here full
    have rest_read : collect (fun cursor => some (page follows cursorOf limit rows cursor)) pages
        (some (cursorOf mine)) = some (follower :: behind) := by
      simp only [collect, turn, Option.map_eq_some_iff] at read
      obtain ⟨tail, tail_read, joined⟩ := read
      rw [List.append_assoc, List.singleton_append, List.append_cancel_left_eq, List.cons.injEq] at joined
      rw [tail_read, joined.2]
    have here_split : rows = (done ++ front) ++ mine :: follower :: behind := by
      rw [split, List.append_assoc]
    obtain ⟨first_rest, selects⟩ := head_of_collect positive rest_read
    rw [selected, here_split] at selects
    have parted := parts_of_selected (here_split ▸ distinct) selects
    have next_here : selected follows rows (some (cursorOf mine)) = follower :: behind := by
      rw [selected, here_split]
      exact filter_of_parts (here_split ▸ sorted) parted.1 parted.2
    by_cases same : before.length = (done ++ front).length
    · obtain ⟨-, rest_same⟩ := List.append_inj (at_boundary.symm.trans here_split) same
      rw [List.cons.injEq, List.cons.injEq] at rest_same
      obtain ⟨rfl, rfl, -⟩ := rest_same
      exact parted
    · have next_split : rows = (done ++ front ++ [mine]) ++ follower :: behind := by
        rw [here_split, List.append_assoc _ [mine], List.singleton_append]
      have next_length : (done ++ front ++ [mine]).length = done.length + limit := by
        simp only [List.length_append, List.length_singleton]
        omega
      refine ih next_split ?_ next_here rest_read ?_
      · rw [next_length]
        exact Nat.dvd_add whole (Nat.dvd_refl limit)
      · rw [next_length]
        rw [List.length_append] at same
        omega

theorem collect_iff (positive : 0 < limit) (sorted : Sorted follows rows) (distinct : rows.Nodup) :
    (∃ pages, collect (fun cursor => some (page follows cursorOf limit rows cursor)) pages none = some rows) ↔
      Parts follows cursorOf limit rows := by
  constructor
  · intro read
    obtain ⟨pages, read⟩ := read
    have split : rows = [] ++ rows := rfl
    intro done last next rest at_boundary boundary
    exact parts_of_collect positive sorted distinct split (Nat.dvd_zero limit) rfl read done last next rest
      at_boundary (Nat.zero_le _) boundary
  · intro parts
    have split : rows = [] ++ rows := rfl
    exact ⟨rows.length + 1, collect_rest positive sorted parts split (Nat.dvd_zero limit) rfl
      (Nat.lt_succ_self _)⟩

/-! A reader without a look ahead, who passes on the cursor of the last row until a page is empty. -/

section Follow

/-- The rows of all pages; none where a page is refused or there are more than this many. -/
def follow (fetch : Option γ → Option (List α)) (cursorOf : α → γ) : ℕ → Option γ → Option (List α)
  | 0, _ => none
  | pages + 1, cursor =>
    match fetch cursor with
    | none => none
    | some rows =>
      match rows.getLast? with
      | none => some []
      | some last => (follow fetch cursorOf pages (some (cursorOf last))).map (rows ++ ·)

/-- Pages of rows that are changed on their way. -/
theorem follow_map {β : Type*} {fetch : Option γ → Option (List α)} {cursorOf : β → γ} (change : α → β) (pages : ℕ)
    (cursor : Option γ) :
    follow (fun cursor => (fetch cursor).map (List.map change)) cursorOf pages cursor =
      (follow fetch (fun row => cursorOf (change row)) pages cursor).map (List.map change) := by
  induction pages generalizing cursor with
  | zero => rfl
  | succ pages ih =>
    simp only [follow]
    cases fetch cursor with
    | none => rfl
    | some rows =>
      rw [Option.map_some]
      simp only [List.getLast?_map]
      cases rows.getLast? with
      | none => rfl
      | some last =>
        simp only [Option.map_some, ih]
        cases follow fetch (fun row => cursorOf (change row)) pages (some (cursorOf (change last))) with
        | none => rfl
        | some later => simp

variable {fetch : Option γ → Option (List α)} {accepted : γ → Prop}

/-- The pages of a sorted table: a cursor that is accepted selects rows, but never the one it comes from. -/
structure Pages (follows : γ → α → Bool) (cursorOf : α → γ) (limit : ℕ) (rows : List α) (accepted : γ → Prop)
    (fetch : Option γ → Option (List α)) : Prop where
  positive : 0 < limit
  sorted : Sorted follows rows
  leaves : ∀ row ∈ rows, follows (cursorOf row) row = false
  first : fetch none = some (rows.take limit)
  later : ∀ row, accepted (cursorOf row) →
    fetch (some (cursorOf row)) = some ((rows.filter (follows (cursorOf row))).take limit)
  refused : ∀ row, ¬accepted (cursorOf row) → fetch (some (cursorOf row)) = none
  nothing : ∀ row, ¬accepted (cursorOf row) → ∀ other ∈ rows, follows (cursorOf row) other = false

namespace Pages

variable (pages : Pages follows cursorOf limit rows accepted fetch) {cursor : Option γ}
include pages

/-- What the cursor of a selected row selects is among the rows selected behind it. -/
theorem selected_after {front tail : List α} {last : α} (here : selected follows rows cursor = front ++ last :: tail) :
    ∃ kept : List α, kept.Sublist tail ∧ selected follows rows (some (cursorOf last)) = kept ∧ last ∈ rows := by
  have sorted := pages.sorted
  have behind : ∃ before after, rows = before ++ last :: after ∧ after.Sublist tail := by
    cases cursor with
    | none => exact ⟨front, tail, here, .refl tail⟩
    | some cursor =>
      obtain ⟨first, second, whole, taken, left⟩ := List.filter_eq_append_iff.mp here
      obtain ⟨before, after, split, none_before, chosen, rest⟩ := List.filter_eq_cons_iff.mp left
      refine ⟨first ++ before, after, by rw [whole, split, List.append_assoc], ?_⟩
      rw [← rest]
      have all : after.filter (follows cursor) = after := by
        rw [List.filter_eq_self]
        intro row member
        unfold Sorted at sorted
        rw [whole, split, List.pairwise_append] at sorted
        have inner := (List.pairwise_append.mp sorted.2.1).2.1
        exact (List.pairwise_cons.mp inner).1 row member cursor chosen
      rw [all]
  obtain ⟨before, after, whole, among⟩ := behind
  have member : last ∈ rows := by simp [whole]
  have out := pages.leaves last member
  refine ⟨after.filter (follows (cursorOf last)), List.filter_sublist.trans among, ?_, member⟩
  have none_before : before.filter (follows (cursorOf last)) = [] := by grind [List.filter_eq_nil_iff, List.pairwise_append, Sorted]
  rw [selected, whole, List.filter_append, none_before, List.nil_append, List.filter_cons_of_neg (by simp [out])]

/-- The reader begins without a cursor and goes on with one that is accepted. -/
def Reads (accepted : γ → Prop) (cursorOf : α → γ) (cursor : Option γ) : Prop :=
  cursor = none ∨ ∃ row, cursor = some (cursorOf row) ∧ accepted (cursorOf row)

omit pages in
theorem reads_none : Reads accepted cursorOf (none : Option γ) := .inl rfl

theorem fetch_eq (reads : Reads accepted cursorOf cursor) :
    fetch cursor = some ((selected follows rows cursor).take limit) := by
  rcases reads with rfl | ⟨row, rfl, taken⟩
  · exact pages.first
  · exact pages.later row taken

/-- The page of a cursor has rows, and the last of them is followed, or it is empty. -/
theorem follow_succ (count : ℕ) (reads : Reads accepted cursorOf cursor) :
    selected follows rows cursor = [] ∧ follow fetch cursorOf (count + 1) cursor = some [] ∨
      ∃ front last tail, selected follows rows cursor = front ++ last :: tail ∧
        (selected follows rows cursor).take limit = front ++ [last] ∧
        (tail = [] ∨ front.length + 1 = limit) ∧
        follow fetch cursorOf (count + 1) cursor =
          (follow fetch cursorOf count (some (cursorOf last))).map (front ++ [last] ++ ·) := by
  have fetched := pages.fetch_eq reads
  rcases List.eq_nil_or_concat ((selected follows rows cursor).take limit) with empty | ⟨front, last, some_rows⟩
  · left
    have none_selected : selected follows rows cursor = [] := by
      rcases List.take_eq_nil_iff.mp empty with zero | none_selected
      · exact absurd zero (Nat.ne_of_gt pages.positive)
      · exact none_selected
    refine ⟨none_selected, ?_⟩
    simp only [follow, fetched, empty, List.getLast?_nil]
  · right
    rw [List.concat_eq_append] at some_rows
    have whole := List.take_append_drop limit (selected follows rows cursor)
    rw [some_rows, List.append_assoc] at whole
    refine ⟨front, last, _, whole.symm, some_rows, ?_, ?_⟩
    · by_cases more : limit < (selected follows rows cursor).length
      · right
        have length := congrArg List.length some_rows
        rw [List.length_take, List.length_append, List.length_singleton] at length
        omega
      · left
        exact List.drop_eq_nil_of_le (Nat.le_of_not_lt more)
    · simp only [follow, fetched, some_rows, List.getLast?_concat]

/-- A refused cursor ends the reading without a result. -/
theorem follow_refused (count : ℕ) {last : α} (refused : ¬accepted (cursorOf last)) :
    follow fetch cursorOf count (some (cursorOf last)) = none := by
  cases count with
  | zero => rfl
  | succ count => simp only [follow, pages.refused last refused]

section

variable {count : ℕ} {read : List α} (reads : Reads accepted cursorOf cursor)

include reads

/-- What is read are selected rows, in order, and each at most once. -/
theorem follow_sublist (done : follow fetch cursorOf count cursor = some read) : read.Sublist (selected follows rows cursor) := by
  induction count generalizing cursor read with
  | zero => cases done
  | succ count ih =>
    rcases pages.follow_succ count reads with ⟨none_selected, ended⟩ | ⟨front, last, tail, here, _, _, goes⟩
    · simp_all
    · rw [goes, Option.map_eq_some_iff] at done
      obtain ⟨later, read_later, rfl⟩ := done
      obtain ⟨kept, among, next, _⟩ := pages.selected_after here
      rw [here, List.append_assoc, List.singleton_append]
      by_cases taken : accepted (cursorOf last)
      · have inner := ih (.inr ⟨last, rfl, taken⟩) read_later
        rw [next] at inner
        exact (List.Sublist.refl front).append ((inner.trans among).cons_cons last)
      · rw [pages.follow_refused count taken] at read_later
        cases read_later

theorem collect_of_follow (done : follow fetch cursorOf count cursor = some read) :
    collect (fun cursor => some (page follows cursorOf limit rows cursor)) count cursor = some read ∧
      ∀ last ∈ read.getLast?, accepted (cursorOf last) := by
  induction count generalizing cursor read with
  | zero => cases done
  | succ count ih =>
    rcases pages.follow_succ count reads with ⟨none_selected, ended⟩ | ⟨front, last, tail, here, some_rows, full, goes⟩
    · simp_all [page_of_last, collect]
    · rw [goes, Option.map_eq_some_iff] at done
      obtain ⟨later, read_later, rfl⟩ := done
      have taken : accepted (cursorOf last) := by
        by_contra refused
        rw [pages.follow_refused count refused] at read_later
        cases read_later
      obtain ⟨collected, final⟩ := ih (.inr ⟨last, rfl, taken⟩) read_later
      refine ⟨?_, ?_⟩
      · cases tail with
        | nil =>
          have fits : (selected follows rows cursor).length ≤ limit := by
            have length := congrArg List.length some_rows
            rw [here, List.length_take] at length
            rw [here]
            omega
          obtain ⟨kept, among, next, _⟩ := pages.selected_after here
          have none_later : later = [] := by
            have inner := pages.follow_sublist (.inr ⟨last, rfl, taken⟩) read_later
            rw [next] at inner
            exact List.sublist_nil.mp (inner.trans among)
          rw [none_later, List.append_nil, ← here]
          simp only [collect, page_of_last fits]
        | cons next others =>
          have length := full.resolve_left (List.cons_ne_nil _ _)
          simp only [collect, page_of_more here length, collected, Option.map_some]
      · intro final_row found
        rcases List.eq_nil_or_concat later with rfl | ⟨before, end_row, rfl⟩
        · rw [List.append_nil, List.getLast?_concat] at found
          cases found
          exact taken
        · rw [List.concat_eq_append, ← List.append_assoc, List.getLast?_concat] at found
          cases found
          exact final _ (by rw [List.concat_eq_append, List.getLast?_concat]; rfl)

theorem follow_of_collect (collected : collect (fun cursor => some (page follows cursorOf limit rows cursor)) count cursor = some read)
    (final : ∀ last ∈ read.getLast?, accepted (cursorOf last)) :
    follow fetch cursorOf (count + 1) cursor = some read := by
  induction count generalizing cursor read with
  | zero => cases collected
  | succ count ih =>
    rcases pages.follow_succ (count + 1) reads with
      ⟨none_selected, ended⟩ | ⟨front, last, tail, here, some_rows, full, goes⟩
    · simp_all [page_of_last, collect]
    · obtain ⟨kept, among, next, member⟩ := pages.selected_after here
      cases tail with
      | nil =>
        have fits : (selected follows rows cursor).length ≤ limit := by
          have length := congrArg List.length some_rows
          rw [here, List.length_take] at length
          rw [here]
          omega
        simp only [collect, page_of_last fits, Option.some.injEq] at collected
        subst collected
        have taken : accepted (cursorOf last) := final last (by rw [here, List.getLast?_concat]; rfl)
        rcases pages.follow_succ count (.inr ⟨last, rfl, taken⟩) with ⟨_, ended⟩ | ⟨more, other, behind, there, _⟩
        · rw [goes, ended, Option.map_some, List.append_nil, here]
        · rw [next, List.sublist_nil.mp among] at there
          simp at there
      | cons follower others =>
        have length := full.resolve_left (List.cons_ne_nil _ _)
        simp only [collect, page_of_more here length, Option.map_eq_some_iff] at collected
        obtain ⟨later, read_later, rfl⟩ := collected
        have taken : accepted (cursorOf last) := by
          by_contra refused
          have none_next : selected follows rows (some (cursorOf last)) = [] := by
            rw [selected, List.filter_eq_nil_iff]
            intro row there selects
            rw [pages.nothing last refused row there] at selects
            cases selects
          have turn : page follows cursorOf limit rows (some (cursorOf last)) = ⟨[], none⟩ := by
            rw [page_of_last (by rw [none_next]; exact Nat.zero_le limit), none_next]
          cases count with
          | zero => cases read_later
          | succ count =>
            simp only [collect, turn] at read_later
            cases read_later
            exact refused (final last (by rw [List.append_nil, List.getLast?_concat]; rfl))
        have rest := ih (.inr ⟨last, rfl, taken⟩) read_later (by
          intro final_row found
          apply final
          rcases List.eq_nil_or_concat later with rfl | ⟨before, end_row, rfl⟩
          · cases found
          · rw [List.concat_eq_append, List.getLast?_concat] at found
            rw [List.concat_eq_append, ← List.append_assoc, List.getLast?_concat]
            exact found)
        rw [goes, rest, Option.map_some]

end

/-- All rows are read, each once, if every page's cursor parts its row from the next one and the very last cursor is
accepted. -/
theorem follow_iff (distinct : rows.Nodup) : (∃ count, follow fetch cursorOf count none = some rows) ↔
      Parts follows cursorOf limit rows ∧ ∀ last ∈ rows.getLast?, accepted (cursorOf last) := by
  rw [← collect_iff pages.positive pages.sorted distinct]
  constructor
  · intro done
    obtain ⟨count, done⟩ := done
    obtain ⟨collected, final⟩ := pages.collect_of_follow reads_none done
    exact ⟨⟨count, collected⟩, final⟩
  · intro both
    obtain ⟨⟨count, collected⟩, final⟩ := both
    exact ⟨count + 1, pages.follow_of_collect reads_none collected final⟩

end Pages

end Follow

/-! Tables that are ordered by a key. -/

section Keys

variable {κ : Type w} (before : κ → κ → Prop) [IsStrictTotalOrder κ before] [DecidableRel before]
variable (key : α → κ) (keyOf : γ → Option κ)

/-- `ORDER BY key` -/
def sortBy (table : List α) : List α :=
  table.insertionSort fun first second => ¬before (key second) (key first)

/-- Whether a cursor selects a row: the row is strictly behind the key that the cursor stands for. -/
def behind (cursor : γ) (row : α) : Bool :=
  (keyOf cursor).any fun boundary => before boundary (key row)

variable {before key keyOf} {table : List α}

omit [DecidableRel before] in
theorem before_of_not {first second third : κ} (earlier : before first second)
    (not_later : ¬before third second) : before first third := by
  rcases trichotomous_of before second third with behind | rfl | ahead
  · exact trans_of before earlier behind
  · exact earlier
  · exact absurd ahead not_later

theorem sortBy_pairwise (table : List α) :
    (sortBy before key table).Pairwise fun first second => ¬before (key second) (key first) := by
  have total : Std.Total fun first second : α => ¬before (key second) (key first) := by
    constructor
    intro first second
    by_contra both
    rw [not_or, not_not, not_not] at both
    exact irrefl_of before (key first) (trans_of before both.2 both.1)
  have transitive : IsTrans α fun first second => ¬before (key second) (key first) := by
    constructor
    intro first second third low high later
    exact high (before_of_not later low)
  exact List.pairwise_insertionSort _ table

omit [IsStrictTotalOrder κ before] in
theorem sortBy_perm (table : List α) : (sortBy before key table).Perm table :=
  List.perm_insertionSort _ table

theorem sortBy_sorted : Sorted (behind before key keyOf) (sortBy before key table) := by
  refine (sortBy_pairwise table).imp ?_
  intro first second not_later cursor selects
  rw [behind, Option.any_eq_true] at selects ⊢
  obtain ⟨boundary, stands, earlier⟩ := selects
  rw [decide_eq_true_eq] at earlier
  exact ⟨boundary, stands, decide_eq_true (before_of_not earlier not_later)⟩

/-- Distinct keys are sorted strictly. -/
theorem sortBy_strict (distinct : (table.map key).Nodup) :
    (sortBy before key table).Pairwise fun first second => before (key first) (key second) := by
  have keys : ((sortBy before key table).map key).Nodup :=
    ((sortBy_perm table).map key).nodup_iff.mpr distinct
  rw [List.Nodup, List.pairwise_map] at keys
  refine ((sortBy_pairwise table).and keys).imp ?_
  intro first second both
  obtain ⟨not_later, different⟩ := both
  rcases trichotomous_of before (key first) (key second) with earlier | same | later
  · exact earlier
  · exact absurd same different
  · exact absurd later not_later

theorem eq_sortBy {sorted : List α} (same : sorted.Perm table)
    (strict : sorted.Pairwise fun first second => before (key first) (key second)) :
    sorted = sortBy before key table := by
  have sorted_keys : (sorted.map key).Nodup := by
    rw [List.Nodup, List.pairwise_map]
    refine strict.imp ?_
    intro first second earlier same_key
    rw [same_key] at earlier
    exact irrefl_of before (key second) earlier
  have distinct : (table.map key).Nodup := (same.map key).nodup_iff.mp sorted_keys
  refine (same.trans (sortBy_perm table).symm).eq_of_pairwise ?_ strict (sortBy_strict distinct)
  intro first second _ _ earlier later
  exact absurd (trans_of before earlier later) (irrefl_of before (key first))

/-- Selecting from a table commutes with sorting it. -/
theorem filter_sortBy (distinct : (table.map key).Nodup) (selects : α → Bool) :
    sortBy before key (table.filter selects) = (sortBy before key table).filter selects :=
  (eq_sortBy ((sortBy_perm table).filter selects) ((sortBy_strict distinct).filter selects)).symm

/-- Behind the key of a row are the rows after it. -/
theorem filter_behind_row {front rest : List α} {row : α}
    (strict : (front ++ row :: rest).Pairwise fun first second => before (key first) (key second)) :
    (front ++ row :: rest).filter (fun other => before (key row) (key other)) = rest := by
  rw [List.pairwise_append, List.pairwise_cons] at strict
  obtain ⟨_, ⟨after, _⟩, earlier⟩ := strict
  have none_before : front.filter (fun other => before (key row) (key other)) = [] := by
    rw [List.filter_eq_nil_iff]
    intro other member chosen
    have first := earlier other member row List.mem_cons_self
    exact irrefl_of before (key row) (trans_of before (of_decide_eq_true chosen) first)
  have all_after : rest.filter (fun other => before (key row) (key other)) = rest := by simp_all
  have not_itself : ¬before (key row) (key row) := irrefl_of before (key row)
  rw [List.filter_append, none_before, List.nil_append, List.filter_cons_of_neg (by simpa using not_itself), all_after]

/-- A cursor parts its row from the next one if it stands for the key of the row. -/
theorem parts_of_exact (distinct : (table.map key).Nodup)
    (exact : ∀ done last next rest, sortBy before key table = done ++ last :: next :: rest →
      limit ∣ done.length + 1 → keyOf (cursorOf last) = some (key last)) :
    Parts (behind before key keyOf) cursorOf limit (sortBy before key table) := by
  intro done last next rest split boundary
  have stands := exact done last next rest split boundary
  have strict : (sortBy before key table).Pairwise fun first second => before (key first) (key second) :=
    sortBy_strict distinct
  rw [split, List.pairwise_append, List.pairwise_cons] at strict
  have earlier := strict.2.1.1 next List.mem_cons_self
  constructor
  · rw [behind, stands, Option.any_some, decide_eq_false_iff_not]
    exact irrefl_of before (key last)
  · rw [behind, stands, Option.any_some, decide_eq_true_eq]
    exact earlier

end Keys

end ProxyPay.Library.Keyset
