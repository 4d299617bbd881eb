import ProxyPay.Auth.RefreshTokens
import ProxyPay.Library.Exclusive
import ProxyPay.Library.Transition

/-! Rotation holds in every run in which a token that is exchanged, or about to be, is presented again only when nothing
is left of its family. -/

namespace ProxyPay.Auth

open ProxyPay.Library

namespace Refresh

def isVerified : Refresh → Bool
  | .verified _ => true
  | _ => false

/-- The token that a request exchanges, if it does. -/
def exchanging : Refresh → Option ℕ
  | .verified token => some token
  | .rotated token _ => some token
  | .refused _ => none

end Refresh

/-- No row of the family is left, and no request with a token of it is under way. -/
def Tokens.isGone (tokens : Tokens) (family : ℕ) : Bool :=
  (tokens.rows.all fun row => row.family_id ≠ family) && tokens.requests.all fun request =>
    match request with
    | .verified token => tokens.familyOf token ≠ some family
    | _ => true

/-- A token that is exchanged or about to be is presented only when nothing is left of its family. -/
def isSingle (tokens : Tokens) : Label → Bool
  | .refresh token _ =>
    !(tokens.requests.any fun request => request.exchanging = some token) ||
      (tokens.familyOf token).all fun family => tokens.isGone family
  | _ => true

variable {before after : Tokens} {token family index : ℕ} {payload : RefreshTokenPayload}

theorem isGone_iff : before.isGone family = true ↔ (∀ row ∈ before.rows, row.family_id ≠ family) ∧
    ∀ token, .verified token ∈ before.requests → before.familyOf token ≠ some family := by
  simp only [Tokens.isGone, Bool.and_eq_true, List.all_eq_true, decide_eq_true_eq]
  refine and_congr_right fun _ => ⟨fun every token member => ?_, fun every request member => ?_⟩
  · simpa using every _ member
  · grind

/-- A token has its row until it is logged out, and nothing is left of a family of which a token was replayed. -/
structure Kept (tokens : Tokens) : Prop where
  rows : ∀ row ∈ tokens.rows, tokens.familyOf row.token = some row.family_id ∧ row.is_revoked = false
  families : ∀ token family, tokens.familyOf token = some family → family < tokens.families
  requests : ∀ token, .verified token ∈ tokens.requests → (tokens.familyOf token).isSome = true
  once : ∀ token, (tokens.requests.countP fun request => request.exchanging = some token) ≤ 1
  gone : ∀ family ∈ tokens.replayed, family < tokens.families ∧ tokens.isGone family = true
  present : ∀ token family, tokens.familyOf token = some family → token ∈ tokens.loggedOut ∨
    ∃ row ∈ tokens.rows, row.token = token

theorem kept_initial : Kept .initial := by
  constructor
  · nofun
  · nofun
  · nofun
  · intro token
    exact Nat.zero_le 1
  · nofun
  · nofun

theorem familyOf_generate (id : BitVec 128) (found : before.familyOf token = some family) :
    (before.generate payload id).familyOf token = some family := by
  obtain ⟨old, present, same⟩ := Option.map_eq_some_iff.mp found
  obtain ⟨inside, _⟩ := List.getElem?_eq_some_iff.mp present
  rw [Tokens.familyOf, Tokens.generate, List.getElem?_append_left inside, present]
  exact congrArg some same

theorem familyOf_generate_cases {id : BitVec 128} (found : (before.generate payload id).familyOf token = some family) :
    before.familyOf token = some family ∨ (token = before.issued.length ∧ family = payload.familyId) := by
  obtain ⟨old, present, same⟩ := Option.map_eq_some_iff.mp found
  rcases getElem?_append_singleton present with earlier | ⟨here, rfl⟩
  · exact .inl (Option.map_eq_some_iff.mpr ⟨old, earlier, same⟩)
  · exact .inr ⟨here, same.symm⟩

section

variable (kept : Kept before)

include kept

theorem Kept.generate (id : BitVec 128) (known : payload.familyId < before.families)
    (alive : payload.familyId ∉ before.replayed) : Kept (before.generate payload id) := by
  have own : (before.generate payload id).familyOf before.issued.length = some payload.familyId := by
    simp [Tokens.familyOf, Tokens.generate]
  constructor
  · refine forall_mem_append_singleton (fun row earlier => ⟨familyOf_generate id (kept.rows row earlier).1, (kept.rows row earlier).2⟩) ?_
    simp_all
  · intro token family found
    rcases familyOf_generate_cases found with earlier | ⟨_, rfl⟩
    · exact kept.families token family earlier
    · exact known
  · intro token member
    obtain ⟨family, found⟩ := Option.isSome_iff_exists.mp (kept.requests token member)
    rw [familyOf_generate id found]
    rfl
  · exact kept.once
  · intro family member
    obtain ⟨bound, gone⟩ := kept.gone family member
    obtain ⟨rows, requests⟩ := (isGone_iff).mp gone
    refine ⟨bound, (isGone_iff).mpr ⟨fun row present => ?_, fun token present same => ?_⟩⟩
    · rcases List.mem_append.mp present with earlier | new
      · exact rows row earlier
      · rw [List.mem_singleton.mp new]
        rintro rfl
        exact alive member
    · obtain ⟨other, found⟩ := Option.isSome_iff_exists.mp (kept.requests token present)
      rw [familyOf_generate id found] at same
      exact requests token present (found.trans same)
  · intro token family found
    rcases familyOf_generate_cases found with earlier | ⟨rfl, _⟩
    · rcases kept.present token family earlier with out | ⟨row, member, same⟩
      · exact .inl out
      · exact .inr ⟨row, List.mem_append_left _ member, same⟩
    · exact .inr ⟨_, List.mem_append_right _ List.mem_cons_self, rfl⟩

theorem Kept.refuse (token : ℕ) : Kept (before.respond (.refused token)) := by
  have verified : ∀ other, .verified other ∈ before.requests ++ [.refused token] → .verified other ∈ before.requests := by simp
  constructor
  · exact kept.rows
  · exact kept.families
  · intro other member
    exact kept.requests other (verified other member)
  · intro other
    simpa [Tokens.respond, Refresh.exchanging] using kept.once other
  · intro family member
    obtain ⟨bound, gone⟩ := kept.gone family member
    obtain ⟨rows, requests⟩ := (isGone_iff).mp gone
    exact ⟨bound, (isGone_iff).mpr ⟨rows, fun other present => requests other (verified other present)⟩⟩
  · exact kept.present

theorem Kept.accept {row : RefreshTokenFamily} (member : row ∈ before.rows)
    (unused : ∀ request ∈ before.requests, request.exchanging ≠ some row.token) :
    Kept (before.respond (.verified row.token)) := by
  have found := (kept.rows row member).1
  constructor
  · exact kept.rows
  · exact kept.families
  · intro token present
    rcases List.mem_append.mp present with earlier | new
    · exact kept.requests token earlier
    · cases List.mem_singleton.mp new
      exact Option.isSome_iff_exists.mpr ⟨_, found⟩
  · intro token
    by_cases same : row.token = token
    · subst same
      have none : (before.requests.countP fun request => request.exchanging = some row.token) = 0 := by simp_all
      change List.countP _ (before.requests ++ [.verified row.token]) ≤ 1
      rw [List.countP_append, none, Nat.zero_add]
      exact List.countP_le_length
    · simpa [Tokens.respond, Refresh.exchanging, List.countP_append, same] using kept.once token
  · intro family replayed
    obtain ⟨bound, gone⟩ := kept.gone family replayed
    obtain ⟨rows, requests⟩ := (isGone_iff).mp gone
    refine ⟨bound, (isGone_iff).mpr ⟨rows, fun token present => ?_⟩⟩
    rcases List.mem_append.mp present with earlier | new
    · exact requests token earlier
    · cases List.mem_singleton.mp new
      change before.familyOf row.token ≠ some family
      rw [found]
      rintro same
      exact rows row member (Option.some.inj same)
  · exact kept.present

theorem Kept.become {next : Refresh} (found : before.requests[index]? = some (.verified token))
    (ends : next = .refused token ∨ ∃ new, next = .rotated token new) : Kept (before.become index next) := by
  have verified : ∀ other, .verified other ∈ before.requests.set index next → .verified other ∈ before.requests := by grind
  constructor
  · exact kept.rows
  · exact kept.families
  · intro other member
    exact kept.requests other (verified other member)
  · intro other
    have counted := countP_set (fun request : Refresh => request.exchanging = some other) found next
    have fewer : (decide (next.exchanging = some other)).toNat ≤
        (decide ((Refresh.verified token).exchanging = some other)).toNat := by
      rcases ends with rfl | ⟨new, rfl⟩
      · exact Nat.zero_le _
      · exact Nat.le_refl _
    have once := kept.once other
    rw [Tokens.become]
    dsimp only
    omega
  · intro family member
    obtain ⟨bound, gone⟩ := kept.gone family member
    obtain ⟨rows, requests⟩ := (isGone_iff).mp gone
    exact ⟨bound, (isGone_iff).mpr ⟨rows, fun other present => requests other (verified other present)⟩⟩
  · exact kept.present

theorem Kept.logout (kind : RefreshTokenFamily → Bool) : Kept (before.logout kind) := by
  have rows : ∀ row ∈ (before.logout kind).rows, row ∈ before.rows := fun row member => (List.mem_filter.mp member).1
  constructor
  · intro row member
    exact kept.rows row (rows row member)
  · exact kept.families
  · exact kept.requests
  · exact kept.once
  · intro family member
    obtain ⟨bound, gone⟩ := kept.gone family member
    obtain ⟨absent, requests⟩ := (isGone_iff).mp gone
    exact ⟨bound, (isGone_iff).mpr ⟨fun row present => absent row (rows row present), requests⟩⟩
  · intro token family found
    rcases kept.present token family found with out | ⟨row, member, rfl⟩
    · exact .inl (List.mem_append_left _ out)
    · cases deleted : kind row with
      | true =>
        left
        exact List.mem_append_right _ (List.mem_map_of_mem (List.mem_filter.mpr ⟨member, deleted⟩))
      | false => exact .inr ⟨row, List.mem_filter.mpr ⟨member, by rw [deleted]; rfl⟩, rfl⟩

end

/-- The name that `verifyRefreshToken` gives is that of no row. -/
theorem revokeFamily_reuse (rows : List RefreshTokenFamily) (familyId : ℕ) (userId : String) :
    revokeFamily rows familyId userId "reuse_detected" = none := by
  have read : Uuid.read "reuse_detected" = none := by decide
  rw [revokeFamily, read]

theorem Kept.verify_cases (kept : Kept before) (token : ℕ) (payload : RefreshTokenPayload) (verifies : Bool) :
    (verifies = true ∧ (∃ row ∈ before.rows, row.token = token) ∧
      before.verify token payload verifies = before.respond (.verified token)) ∨
    ((verifies = false ∨ ∀ row ∈ before.rows, row.token ≠ token) ∧
      before.verify token payload verifies = before.respond (.refused token)) := by
  unfold Tokens.verify
  cases verifies with
  | false => exact .inr ⟨.inl rfl, rfl⟩
  | true =>
    cases found : before.rows.find? (·.token = token) with
    | none =>
      right
      refine ⟨.inr fun row member => by simpa using List.find?_eq_none.mp found row member, ?_⟩
      simp only [Bool.not_true, Bool.false_eq_true, if_false, revokeFamily_reuse]
    | some row =>
      left
      have member := List.mem_of_find?_eq_some found
      have unrevoked := (kept.rows row member).2
      refine ⟨rfl, ⟨row, member, by simpa using List.find?_some found⟩, ?_⟩
      obtain ⟨id, user_id, family_id, stored, parent_token, is_revoked⟩ := row
      cases unrevoked
      rfl

theorem not_exchanged_of_unused (unused : ∀ request ∈ before.requests, request.exchanging ≠ some token) :
    before.isExchanged token = false := by
  apply Bool.eq_false_iff.mpr
  intro exchanged
  obtain ⟨request, member, rotated⟩ := List.any_eq_true.mp exchanged
  cases request with
  | rotated old new =>
    apply unused _ member
    simpa [Refresh.exchanging] using rotated
  | _ => cases rotated

variable {verifies : Bool}

theorem single_cases (single : isSingle before (.refresh token verifies) = true)
    (found : before.familyOf token = some family) :
    (∀ request ∈ before.requests, request.exchanging ≠ some token) ∨ before.isGone family = true := by
  rcases Bool.or_eq_true_iff.mp single with unused | gone
  · simp_all
  · right
    rw [found] at gone
    exact gone

theorem Kept.notice (kept : Kept before) (found : before.familyOf token = some payload.familyId)
    (single : (∀ request ∈ before.requests, request.exchanging ≠ some token) ∨ before.isGone payload.familyId = true) :
    Kept (before.notice token payload) := by
  unfold Tokens.notice
  cases exchanged : before.isExchanged token with
  | false => exact kept
  | true =>
    rcases single with unused | gone
    · cases (not_exchanged_of_unused unused).symm.trans exchanged
    · refine ⟨kept.rows, kept.families, kept.requests, kept.once, fun family member => ?_, kept.present⟩
      rcases List.mem_append.mp member with earlier | new
      · exact kept.gone family earlier
      · rw [List.mem_singleton.mp new]
        exact ⟨kept.families token payload.familyId found, gone⟩

theorem exchanges_le (kept : Kept before) (token : ℕ) : before.exchanges token ≤ 1 := by
  apply Nat.le_trans _ (kept.once token)
  apply List.countP_mono_left
  intro request _ rotated
  cases request with
  | rotated old new => simpa [Refresh.exchanging] using rotated
  | _ => cases rotated

theorem notice_frame : (before.notice token payload).rows = before.rows ∧
    (before.notice token payload).requests = before.requests ∧
    (before.notice token payload).loggedOut = before.loggedOut := by
  unfold Tokens.notice
  split <;> exact ⟨rfl, rfl, rfl⟩

theorem Kept.verify (kept : Kept before) (found : before.familyOf token = some payload.familyId)
    (single : (∀ request ∈ before.requests, request.exchanging ≠ some token) ∨ before.isGone payload.familyId = true) :
    Kept (before.verify token payload verifies) := by
  rcases kept.verify_cases token payload verifies with ⟨_, ⟨row, member, rfl⟩, accepted⟩ | ⟨_, refused⟩
  · rw [accepted]
    rcases single with unused | gone
    · exact kept.accept member unused
    · have same := (kept.rows row member).1
      rw [found] at same
      exact absurd (Option.some.inj same).symm (((isGone_iff).mp gone).1 row member)
  · rw [refused]
    exact kept.refuse token

theorem isGone_notice : (before.notice token payload).isGone family = before.isGone family := by
  unfold Tokens.notice
  split <;> rfl

theorem familyOf_notice (other : ℕ) : (before.notice token payload).familyOf other = before.familyOf other := by
  unfold Tokens.notice
  split <;> rfl

theorem Kept.present_single (kept : Kept before) (found : before.issued[token]? = some payload)
    (single : isSingle before (.refresh token verifies) = true) :
    Kept (before.notice token payload) ∧
      ((∀ request ∈ before.requests, request.exchanging ≠ some token) ∨ before.isGone payload.familyId = true) := by
  have family : before.familyOf token = some payload.familyId := Option.map_eq_some_iff.mpr ⟨payload, found, rfl⟩
  have cases := single_cases single family
  exact ⟨kept.notice family cases, cases⟩

variable {label : Label}

theorem Kept.step (kept : Kept before) (move : step before label after)
    (single : isSingle before label = true) : Kept after := by
  cases label with
  | login userId id =>
    simp only [Auth.step, Tokens.perform] at move
    split at move
    · cases move
    · cases move
      have grown : Kept { before with families := before.families + 1 } := by
        refine ⟨kept.rows, fun token family found => ?_, kept.requests, kept.once, fun family member => ?_, kept.present⟩
        · exact Nat.lt_succ_of_lt (kept.families token family found)
        · exact ⟨Nat.lt_succ_of_lt (kept.gone family member).1, (kept.gone family member).2⟩
      apply grown.generate id (Nat.lt_succ_self before.families)
      intro member
      exact absurd (kept.gone _ member).1 (Nat.lt_irrefl _)
  | refresh token verifies =>
    simp only [Auth.step, Tokens.perform] at move
    split at move
    · cases move
    · rename_i payload found
      cases move
      obtain ⟨noted, cases⟩ := kept.present_single found single
      apply noted.verify
      · rw [familyOf_notice]
        exact Option.map_eq_some_iff.mpr ⟨payload, found, rfl⟩
      · rw [(notice_frame).2.1, isGone_notice]
        exact cases
  | rotate request id =>
    simp only [Auth.step, Tokens.perform] at move
    split at move
    · rename_i token found
      split at move
      · cases move
      · rename_i payload issued
        split at move
        · cases move
        · cases move
          have family : before.familyOf token = some payload.familyId := Option.map_eq_some_iff.mpr ⟨payload, issued, rfl⟩
          have rotated : Kept (before.become request (.rotated token before.issued.length)) :=
            kept.become found (.inr ⟨_, rfl⟩)
          have alive : payload.familyId ∉ before.replayed := by
            intro replayed
            exact ((isGone_iff).mp (kept.gone _ replayed).2).2 token (List.mem_of_getElem? found) family
          exact rotated.generate id (kept.families token _ family) alive
    · cases move
  | fail request =>
    simp only [Auth.step, Tokens.perform] at move
    split at move
    · rename_i token found
      cases move
      exact kept.become found (.inl rfl)
    · cases move
  | revoke userId familyId tokenId =>
    simp only [Auth.step, Tokens.perform] at move
    split at move <;> cases move
    · exact kept.logout _
    · exact kept
  | revokeAll userId familyId =>
    cases move
    exact kept.logout _

theorem Kept.rotates (kept : Kept before) (move : Auth.step before label after)
    (single : isSingle before label = true) : Rotates before label after := by
  constructor
  · exact exchanges_le (kept.step move single)
  · rintro token verifies family rfl known replay
    simp only [Auth.step, Tokens.perform] at move
    split at move
    · cases move
    · rename_i payload found
      cases move
      obtain ⟨noted, cases⟩ := kept.present_single found single
      have same : before.familyOf token = some payload.familyId := Option.map_eq_some_iff.mpr ⟨payload, found, rfl⟩
      cases known.symm.trans same
      have gone : before.isGone payload.familyId = true := by
        rcases replay with exchanged | replayed
        · rcases cases with unused | gone
          · cases (not_exchanged_of_unused unused).symm.trans exchanged
          · exact gone
        · exact (kept.gone _ replayed).2
      rcases noted.verify_cases token payload verifies with ⟨_, ⟨row, member, rfl⟩, _⟩ | ⟨_, refused⟩
      · rw [(notice_frame).1] at member
        have own := (kept.rows row member).1
        rw [same] at own
        exact absurd (Option.some.inj own).symm (((isGone_iff).mp gone).1 row member)
      · rw [refused]
        exact List.getLast?_concat
  · rintro request id token family rfl found known replayed
    exact ((isGone_iff).mp (kept.gone family replayed).2).2 token (List.mem_of_getElem? found) known
  · rintro token family rfl known fresh alive present
    simp only [Auth.step, Tokens.perform] at move
    split at move
    · cases move
    · rename_i payload found
      cases move
      obtain ⟨noted, _⟩ := kept.present_single found single
      rcases noted.verify_cases token payload true with ⟨_, _, accepted⟩ | ⟨refuses, _⟩
      · rw [accepted]
        exact List.getLast?_concat
      · rcases refuses with unverified | missing
        · cases unverified
        · rcases kept.present token family known with out | ⟨row, member, same⟩
          · exact absurd out present
          · exact absurd same (missing row (by rwa [(notice_frame).1]))

/-- In every such run each token is exchanged once at most, a replay is refused and ends its family, and the tokens of
other families keep working. -/
theorem tokens_rotate {trace : List Label} {last : Tokens} (run : Run step .initial trace last)
    (single : Throughout step .initial (fun before label _ => isSingle before label = true) trace) :
    Throughout step .initial Rotates trace := by
  rintro earlier label rest before after rfl reached move
  have kept : Kept before := by
    apply reached.kept single.before
    · exact kept_initial
    · intro before label after kept move single
      exact kept.step move single
  exact kept.rotates move (single earlier label rest before after rfl reached move)

/-- Two families rotate; one is logged out, and its first token is presented again. -/
def loggedOut : List Label :=
  [.login "ada" 1, .login "ada" 2, .refresh 0 true, .rotate 0 3, .refresh 1 true, .revokeAll "ada" 0, .refresh 0 true,
    .refresh 2 true, .rotate 1 4, .refresh 3 true, .rotate 4 5]

theorem loggedOut_rotates : ∃ last : Tokens, last.replayed = [0] ∧ last.exchanges 0 = 1 ∧ last.exchanges 3 = 1 ∧
    Throughout step .initial Rotates loggedOut := by
  have followed : (loggedOut.foldlM Tokens.perform .initial).map (fun tokens =>
      (tokens.replayed, tokens.exchanges 0, tokens.exchanges 3)) = some ([0], 1, 1) := by decide
  obtain ⟨last, reached, same⟩ := Option.map_eq_some_iff.mp followed
  simp only [Prod.mk.injEq] at same
  exact ⟨last, same.1, same.2.1, same.2.2, tokens_rotate (Run.follow reached) (throughout_follow (by decide))⟩

/-- A token is exchanged twice. -/
def replayed : List Label :=
  [.login "ada" 1, .refresh 0 true, .rotate 0 2, .refresh 0 true, .rotate 1 3]

theorem replayed_not_rotates : ¬∀ (trace : List Label) (last : Tokens), Run step .initial trace last →
    Throughout step .initial Rotates trace := by
  intro always
  have followed : (replayed.foldlM Tokens.perform .initial).map (fun tokens => tokens.exchanges 0) = some 2 := by
    decide
  obtain ⟨last, reached, twice⟩ := Option.map_eq_some_iff.mp followed
  have run : Run step .initial (replayed.take 4 ++ [.rotate 1 3]) last := Run.follow reached
  obtain ⟨before, earlier, move⟩ := run.last_step
  have once := (always _ _ run (replayed.take 4) (.rotate 1 3) [] before last rfl earlier move).once 0
  rw [twice] at once
  exact absurd once (by decide)

end ProxyPay.Auth
