import Mathlib.Data.List.Pairwise
import LubricantNodes.Go.Strings

/-!
# One-time passwords

The node derives a code from its secret and the server's time; the validator
derives the codes of a few steps around its own time and accepts each code once.
The message authentication code is a parameter, so nothing here depends on which
codes it yields.
-/

namespace LubricantNodes.Auth.Totp

open Go

/-! ## Times -/

/-- A `time.Time`, in nanoseconds since the epoch.  `Unix` is an `int64`. -/
structure Time where
  nanos : Int
  low : -2 ^ 63 ≤ nanos / 10 ^ 9
  high : nanos / 10 ^ 9 < 2 ^ 63
  deriving DecidableEq

/-- The Unix epoch. -/
def Time.epoch : Time where
  nanos := 0
  low := by decide
  high := by decide

/-- `time.Second`. -/
def second : Int := 10 ^ 9

/-- `TimeStep`. -/
def timeStep : Nat := 30

/-- `StepWindow`. -/
def stepWindow : Nat := 2

/-- `Digits`. -/
def digits : Nat := 6

/-- The conversion to `uint64`. -/
def uint64 (value : Int) : Nat :=
  (value % 2 ^ 64).toNat

/-- The conversion to `int64`. -/
def int64 (value : Int) : Int :=
  value.bmod (2 ^ 64)

namespace Time

variable (time : Time)

/-- `Unix`. -/
def unix : Int :=
  time.nanos / second

/-- The time step that a time falls into. -/
def step : Nat :=
  uint64 time.unix / timeStep

/-- `Sub`; a `Duration` that does not fit into an `int64` is the nearest one that
does. -/
def sub (earlier : Time) : Int :=
  max (-2 ^ 63) (min (2 ^ 63 - 1) (time.nanos - earlier.nanos))

theorem sub_mono {first second : Time} (before : first.nanos ≤ second.nanos) (earlier : Time) :
    first.sub earlier ≤ second.sub earlier := by
  unfold sub
  omega

theorem step_lt : time.step < 2 ^ 60 := by
  simp only [step, uint64, timeStep]
  omega

/-- The 30-second interval that a time falls into, counted from the epoch. -/
def interval : Int :=
  time.nanos / (timeStep * second)

/-- The time falls into an interval of the window around an interval. -/
def Near (interval : Int) : Prop :=
  time.interval ≤ interval + stepWindow ∧ interval ≤ time.interval + stepWindow
  deriving Decidable

/-- From the epoch on, the step is the interval. -/
theorem step_of_epoch {time : Time} (epoch : 0 ≤ time.nanos) :
    (time.step : Int) = time.interval := by
  have range := time.high
  simp only [step, uint64, unix, interval, second, timeStep]
  omega

/-- Times near one interval are less than the window apart. -/
theorem sub_le_of_near {first second : Time} {interval : Int} (near : first.Near interval)
    (other : second.Near interval) : second.sub first ≤ 150 * Totp.second := by
  rcases near with ⟨_, low⟩
  rcases other with ⟨high, _⟩
  simp only [Time.interval, Totp.second, timeStep, stepWindow] at low high
  simp only [sub, Totp.second]
  omega

end Time

/-! ## Codes -/

/-- `binary.BigEndian.PutUint64`. -/
def bigEndian (counter : Nat) : List UInt8 :=
  (List.range 8).map fun index => UInt8.ofNat (counter / 256 ^ (7 - index))

/-- `fmt.Sprintf("%0*d", width, value)`. -/
def zeroPadded (width value : Nat) : String :=
  let numeral := Nat.toDigits 10 value
  String.ofList (List.replicate (width - numeral.length) '0' ++ numeral)

/-- `hmac.New(sha1.New, secret)` written to once; the sum has 20 bytes. -/
abbrev Hmac := List UInt8 → List UInt8 → Vector UInt8 20

variable (sum : Vector UInt8 20)

/-- `sum[len(sum)-1] & 0x0f`. -/
def offset : Nat :=
  (sum[19] &&& 0x0f).toNat

theorem offset_lt : offset sum < 16 := by
  have small : (sum[19] &&& 0x0f).toNat ≤ (0x0f : UInt8).toNat := by
    rw [UInt8.toNat_and]
    exact Nat.and_le_right
  exact Nat.lt_succ_of_le small

/-- `binary.BigEndian.Uint32(sum[offset:offset+4]) & 0x7fffffff`. -/
def truncated : Nat :=
  have inside := offset_lt sum
  (((sum[offset sum].toNat * 256 + sum[offset sum + 1].toNat) * 256 +
    sum[offset sum + 2].toNat) * 256 + sum[offset sum + 3].toNat) &&& 0x7fffffff

section Generation

variable (hmac : Hmac)

/-- `generateAtCounter`. -/
def generateAtCounter (secret : List UInt8) (counter : Nat) : String :=
  zeroPadded digits (truncated (hmac secret (bigEndian counter)) % 10 ^ digits)

/-- `Generate`. -/
def generate (secret : List UInt8) (time : Time) : String :=
  generateAtCounter hmac secret time.step

end Generation

variable {rune : Char}

theorem isDigit_of_mem_zeroPadded {width value : Nat}
    (member : rune ∈ (zeroPadded width value).toList) : rune.isDigit = true := by
  rw [zeroPadded, String.toList_ofList, List.mem_append] at member
  rcases member with zero | numeral
  · rw [List.eq_of_mem_replicate zero]
    rfl
  · exact Nat.isDigit_of_mem_toDigits (by decide) (by decide) numeral

/-- A number that fits is padded to the width. -/
theorem length_zeroPadded {width value : Nat} (positive : 0 < width) (fits : value < 10 ^ width) :
    (zeroPadded width value).toList.length = width := by
  have short : (Nat.toDigits 10 value).length ≤ width :=
    (Nat.length_toDigits_le_iff (by decide) positive).mpr fits
  rw [zeroPadded, String.toList_ofList, List.length_append, List.length_replicate]
  omega

theorem isSpace_of_isDigit (digit : rune.isDigit = true) : isSpace rune = false := by
  simp only [Char.isDigit, Bool.and_eq_true, decide_eq_true_eq] at digit
  have above : 48 ≤ rune.toNat := digit.1
  have below : rune.toNat ≤ 57 := digit.2
  simp only [isSpace, List.mem_cons, List.not_mem_nil, or_false, Bool.or_eq_false_iff,
    decide_eq_false_iff_not, Bool.and_eq_false_iff]
  omega

theorem utf8Size_of_isDigit (digit : rune.isDigit = true) : rune.utf8Size = 1 := by
  simp only [Char.isDigit, Bool.and_eq_true, decide_eq_true_eq] at digit
  have below : rune.toNat ≤ 57 := digit.2
  rw [Char.utf8Size_eq_one_iff, UInt32.le_iff_toNat_le]
  exact Nat.le_trans below (by decide)

section SixDigits

variable (hmac : Hmac) (secret : List UInt8) (counter : Nat)

theorem length_generateAtCounter : (generateAtCounter hmac secret counter).toList.length = digits :=
  length_zeroPadded (by decide) (Nat.mod_lt _ (by decide))

theorem len_generateAtCounter : len (generateAtCounter hmac secret counter) = digits := by
  have ones : (generateAtCounter hmac secret counter).toList.map Char.utf8Size =
      (generateAtCounter hmac secret counter).toList.map fun _ => 1 := by
    apply List.map_congr_left
    intro rune member
    exact utf8Size_of_isDigit (isDigit_of_mem_zeroPadded member)
  rw [len, ones, List.map_const', List.sum_replicate_nat, Nat.mul_one, length_generateAtCounter]

theorem trimSpace_generateAtCounter : trimSpace (generateAtCounter hmac secret counter) =
      generateAtCounter hmac secret counter := by
  apply trimSpace_of_bare
  · intro rune member
    exact isSpace_of_isDigit (isDigit_of_mem_zeroPadded (List.mem_of_mem_head? member))
  · intro rune member
    exact isSpace_of_isDigit (isDigit_of_mem_zeroPadded (List.mem_of_mem_getLast? member))

end SixDigits

/-! ## The replay cache -/

/-- `ReplayCache`. -/
structure ReplayCache where
  ttl : Int
  seen : List (String × Time)

namespace ReplayCache

/-- `NewReplayCache`. -/
def new : ReplayCache where
  ttl := (stepWindow * 2 + 1) * timeStep * second + 30 * second
  seen := []

/-- The key of a claim. -/
def key (nodeId code : String) : String :=
  nodeId ++ "|" ++ code

variable (cache : ReplayCache)

/-- `pruneLocked`. -/
def prune (now : Time) : ReplayCache :=
  { cache with seen := cache.seen.filter fun entry => now.sub entry.2 ≤ cache.ttl }

/-- `Claim`. -/
def claim (nodeId code : String) (now : Time) : Bool × ReplayCache :=
  let pruned := cache.prune now
  if pruned.seen.any fun entry => entry.1 = key nodeId code then (false, pruned)
  else (true, { pruned with seen := (key nodeId code, now) :: pruned.seen })

variable {cache} {nodeId code : String} {now : Time}

@[simp]
theorem ttl_claim : (cache.claim nodeId code now).2.ttl = cache.ttl := by
  unfold claim
  dsimp only
  split_ifs <;> rfl

theorem mem_prune {entry : String × Time} :
    entry ∈ (cache.prune now).seen ↔ entry ∈ cache.seen ∧ now.sub entry.2 ≤ cache.ttl := by
  simp [prune]

/-- A claim is fresh when the cache has no entry of its key that has not expired. -/
theorem claim_iff : (cache.claim nodeId code now).1 = true ↔
    ¬∃ time, (key nodeId code, time) ∈ cache.seen ∧ now.sub time ≤ cache.ttl := by
  have found : ((cache.prune now).seen.any fun entry => entry.1 = key nodeId code) = true ↔
      ∃ time, (key nodeId code, time) ∈ cache.seen ∧ now.sub time ≤ cache.ttl := by
    simp only [List.any_eq_true, decide_eq_true_eq, mem_prune]
    constructor
    · rintro ⟨⟨other, time⟩, ⟨member, recent⟩, same⟩
      subst same
      exact ⟨time, member, recent⟩
    · rintro ⟨time, member, recent⟩
      exact ⟨_, ⟨member, recent⟩, rfl⟩
  rw [← found]
  unfold claim
  dsimp only
  split_ifs with held <;> simp [held]

/-- An entry stays until it has expired. -/
theorem mem_claim_of_mem {entry : String × Time} (member : entry ∈ cache.seen)
    (recent : now.sub entry.2 ≤ cache.ttl) : entry ∈ (cache.claim nodeId code now).2.seen := by
  have kept : entry ∈ (cache.prune now).seen := mem_prune.mpr ⟨member, recent⟩
  unfold claim
  dsimp only
  split_ifs
  · exact kept
  · exact List.mem_cons_of_mem _ kept

/-- A fresh claim is recorded. -/
theorem mem_claim_of_fresh (fresh : (cache.claim nodeId code now).1 = true) :
    (key nodeId code, now) ∈ (cache.claim nodeId code now).2.seen := by
  unfold claim at fresh ⊢
  dsimp only at fresh ⊢
  split_ifs at fresh ⊢
  exact List.mem_cons_self

end ReplayCache

/-! ## Recorded claims -/

/-- A claim of a code for a node.  Only codes that were generated are claimed. -/
structure Claim where
  nodeId : String
  code : String
  time : Time
  sized : code.toList.length = digits

namespace ReplayCache

/-- Codes of one length lead to different keys, whatever the identifiers of the nodes
contain. -/
theorem key_inj {nodeId other code second : String}
    (sized : code.toList.length = second.toList.length)
    (same : key nodeId code = key other second) :
    nodeId = other ∧ code = second := by
  have runes : nodeId.toList ++ "|".toList ++ code.toList =
      other.toList ++ "|".toList ++ second.toList := by
    rw [← String.toList_append, ← String.toList_append, ← String.toList_append,
      ← String.toList_append]
    exact congrArg String.toList same
  rcases List.append_inj' runes sized with ⟨before, codes⟩
  exact ⟨String.toList_injective (List.append_cancel_right before), String.toList_injective codes⟩

/-- The cache with the given claims. -/
def of (ttl : Int) (claims : List Claim) : ReplayCache where
  ttl := ttl
  seen := claims.map fun claim => (key claim.nodeId claim.code, claim.time)

variable {ttl : Int} {claims : List Claim} {nodeId code : String} {now : Time}

theorem prune_of : (of ttl claims).prune now =
    of ttl (claims.filter fun claim => now.sub claim.time ≤ ttl) := by
  unfold prune of
  rw [List.filter_map]
  rfl

/-- A code is fresh unless the very code was claimed for the very node, and the claim has
not expired. -/
theorem claim_of_iff (sized : code.toList.length = digits) :
    ((of ttl claims).claim nodeId code now).1 = true ↔
      ∀ claim ∈ claims, claim.nodeId = nodeId → claim.code = code →
        ttl < now.sub claim.time := by
  rw [claim_iff]
  constructor
  · rintro fresh claim member rfl rfl
    apply Int.not_le.mp
    intro recent
    exact fresh ⟨claim.time, List.mem_map.mpr ⟨claim, member, rfl⟩, recent⟩
  · rintro expired ⟨time, recorded, recent⟩
    rcases List.mem_map.mp recorded with ⟨claim, member, entry⟩
    rcases Prod.mk.inj entry with ⟨sameKey, rfl⟩
    rcases key_inj (claim.sized.trans sized.symm) sameKey with ⟨node, sameCode⟩
    exact absurd recent (Int.not_le.mpr (expired claim member node sameCode))

/-- A claim leaves a cache with claims. -/
theorem exists_claim_of (sized : code.toList.length = digits) :
    ∃ after, ((of ttl claims).claim nodeId code now).2 = of ttl after := by
  unfold claim
  rw [prune_of]
  dsimp only
  split_ifs
  · exact ⟨_, rfl⟩
  · exact ⟨⟨nodeId, code, now, sized⟩ :: claims.filter fun claim => now.sub claim.time ≤ ttl, rfl⟩

end ReplayCache

/-! ## Validation -/

section Validation

variable (hmac : Hmac) (secret : List UInt8)

/-- The values of `delta`. -/
def deltas : List Int :=
  (List.range (2 * stepWindow + 1)).map fun index : Nat => (index : Int) - stepWindow

/-- The code is that of the step `delta` away from `base`. -/
def matchesAt (code : String) (base : Nat) (delta : Int) : Bool :=
  let step := int64 base + delta
  decide (0 ≤ step) && generateAtCounter hmac secret (uint64 step) = code

/-- `Claim`, on a cache that may be nil. -/
def claimIn (used : Option ReplayCache) (nodeId code : String) (now : Time) :
    Bool × Option ReplayCache :=
  match used with
  | none => (true, none)
  | some cache =>
    let (fresh, after) := cache.claim nodeId code now
    (fresh, some after)

/-- `Validate`. -/
def validate (code : String) (now : Time) (used : Option ReplayCache) (nodeId : String) :
    Bool × Option ReplayCache :=
  let code := trimSpace code
  if len code ≠ digits then (false, used)
  else
    match deltas.find? (matchesAt hmac secret code now.step) with
    | none => (false, used)
    | some _ => claimIn used nodeId code now

variable {hmac secret} {code nodeId : String} {now : Time}

variable (hmac secret) in
/-- The code of a step in the window matches. -/
theorem exists_matchesAt {time : Time} (epoch : 0 ≤ time.nanos) (present : 0 ≤ now.nanos)
    (near : now.Near time.interval) :
    ∃ delta ∈ deltas, matchesAt hmac secret (generate hmac secret time) now.step delta = true := by
  have limit := now.step_lt
  have steps := Time.step_of_epoch epoch
  have base := Time.step_of_epoch present
  rcases near with ⟨ahead, behind⟩
  rw [← steps, ← base] at ahead behind
  simp only [stepWindow] at ahead behind
  refine ⟨(time.step : Int) - now.step, ?_, ?_⟩
  · rw [deltas, List.mem_map]
    refine ⟨((time.step : Int) - now.step + 2).toNat, ?_, ?_⟩
    · rw [List.mem_range]
      simp only [stepWindow]
      omega
    · simp only [stepWindow]
      omega
  · have exact64 : int64 now.step = now.step := by
      rw [int64, Int.bmod_eq_of_le] <;> omega
    have target : int64 now.step + ((time.step : Int) - now.step) = time.step := by
      rw [exact64]
      omega
    have counter : uint64 (time.step : Int) = time.step := by
      simp only [uint64]
      omega
    simp only [matchesAt, target, counter, generate, decide_true, Bool.and_true]
    exact decide_eq_true (Int.natCast_nonneg _)

/-- A code in the window is claimed. -/
theorem validate_generate {time : Time} (epoch : 0 ≤ time.nanos) (present : 0 ≤ now.nanos)
    (near : now.Near time.interval) (used : Option ReplayCache) :
    validate hmac secret (generate hmac secret time) now used nodeId =
      claimIn used nodeId (generate hmac secret time) now := by
  rcases exists_matchesAt hmac secret epoch present near with ⟨delta, member, matching⟩
  have found : (deltas.find?
      (matchesAt hmac secret (generate hmac secret time) now.step)).isSome = true := by
    rw [List.find?_isSome]
    exact ⟨delta, member, matching⟩
  rcases Option.isSome_iff_exists.mp found with ⟨first, first_eq⟩
  have size : len (generate hmac secret time) = digits := len_generateAtCounter ..
  have bare : trimSpace (generate hmac secret time) = generate hmac secret time :=
    trimSpace_generateAtCounter ..
  simp only [validate, bare, size, first_eq, ne_eq, not_true_eq_false, if_false]

variable (hmac secret code now nodeId) in
/-- A code is rejected out of hand, or it is one of the generated codes and is
claimed. -/
theorem validate_cases (used : Option ReplayCache) :
    validate hmac secret code now used nodeId = (false, used) ∨
      (trimSpace code).toList.length = digits ∧
        validate hmac secret code now used nodeId = claimIn used nodeId (trimSpace code) now := by
  unfold validate
  dsimp only
  split_ifs with size
  · exact .inl rfl
  cases found : deltas.find? (matchesAt hmac secret (trimSpace code) now.step) with
  | none => exact .inl rfl
  | some delta =>
    right
    refine ⟨?_, rfl⟩
    have matching := List.find?_some found
    simp only [matchesAt, Bool.and_eq_true, decide_eq_true_eq] at matching
    rw [← matching.2]
    exact length_generateAtCounter ..

end Validation

/-! ## Sequences of calls -/

/-- A call of `Validate`. -/
structure Call where
  secret : List UInt8
  code : String
  now : Time
  nodeId : String

namespace Call

/-- The two calls are for the same node and trimmed code. -/
def Same (first second : Call) : Prop :=
  first.nodeId = second.nodeId ∧ trimSpace first.code = trimSpace second.code
  deriving Decidable

/-- The key under which an accepted call is recorded. -/
def key (call : Call) : String :=
  ReplayCache.key call.nodeId (trimSpace call.code)

variable (hmac : Hmac)

/-- One call. -/
def result (used : Option ReplayCache) (call : Call) : Bool × Option ReplayCache :=
  validate hmac call.secret call.code call.now used call.nodeId

/-- The accepted ones of a sequence of calls that share a cache. -/
def accepted : Option ReplayCache → List Call → List Call
  | _, [] => []
  | used, call :: rest =>
    let after := accepted (call.result hmac used).2 rest
    if (call.result hmac used).1 then call :: after else after

end Call

namespace Call

variable {hmac : Hmac} {cache : ReplayCache} {call : Call} {calls : List Call}

theorem key_of_same {first second : Call} (same : first.Same second) : first.key = second.key := by
  rw [key, key, same.1, same.2]

/-- What a call does to the cache: nothing, or it claims its key. -/
inductive Uses (cache : ReplayCache) (call : Call) : Bool × Option ReplayCache → Prop
  | rejected : Uses cache call (false, some cache)
  | claimed (sized : (trimSpace call.code).toList.length = digits) : Uses cache call
      ((cache.claim call.nodeId (trimSpace call.code) call.now).1,
        some (cache.claim call.nodeId (trimSpace call.code) call.now).2)

theorem uses (hmac : Hmac) (cache : ReplayCache) (call : Call) :
    Uses cache call (call.result hmac (some cache)) := by
  rcases validate_cases hmac call.secret call.code call.nodeId call.now (some cache) with
    rejected | ⟨sized, claimed⟩
  · rw [result, rejected]
    exact .rejected
  · rw [result, claimed]
    exact .claimed sized

/-- Calls leave a cache with claims. -/
theorem exists_foldl_result_eq_of (hmac : Hmac) (ttl : Int) (claims : List Claim)
    (calls : List Call) :
    ∃ after, calls.foldl (fun used call => (call.result hmac used).2) (some (.of ttl claims)) =
      some (.of ttl after) := by
  induction calls generalizing claims with
  | nil => exact ⟨claims, rfl⟩
  | cons call rest ih =>
    rw [List.foldl_cons]
    have use := uses hmac (.of ttl claims) call
    generalize call.result hmac (some (.of ttl claims)) = outcome at use
    cases use with
    | rejected => exact ih claims
    | claimed sized =>
      rcases ReplayCache.exists_claim_of sized with ⟨after, left⟩
      rw [left]
      exact ih after

theorem mem_accepted_cons {used : Option ReplayCache} {first call : Call} :
    call ∈ accepted hmac used (first :: calls) ↔ (first.result hmac used).1 = true ∧ call = first ∨
        call ∈ accepted hmac (first.result hmac used).2 calls := by
  rw [accepted]
  split_ifs with fresh <;> simp [fresh]

theorem accepted_sublist (used : Option ReplayCache) :
    (accepted hmac used calls).Sublist calls := by
  induction calls generalizing used with
  | nil => exact .slnil
  | cons first rest ih =>
    rw [accepted]
    split_ifs
    · exact (ih _).cons_cons first
    · exact (ih _).cons first

/-- The clock does not go back. -/
abbrev Ordered (calls : List Call) : Prop :=
  calls.Pairwise fun first second => first.now.nanos ≤ second.now.nanos

/-- No call with the key of an entry is accepted before the entry has expired.
The entry stays in the cache until then, so the claim of the call fails. -/
theorem expired_of_accepted {key : String} {time : Time} (ordered : Ordered calls)
    (recorded : (key, time) ∈ cache.seen)
    (accept : call ∈ accepted hmac (some cache) calls) (same : call.key = key) :
    cache.ttl < call.now.sub time := by
  induction calls generalizing cache with
  | nil => cases accept
  | cons first rest ih =>
    rcases List.pairwise_cons.mp ordered with ⟨after, later⟩
    by_cases recent : first.now.sub time ≤ cache.ttl
    · rw [mem_accepted_cons] at accept
      have use := uses hmac cache first
      generalize first.result hmac (some cache) = outcome at accept use
      cases use with
      | rejected =>
        rcases accept with ⟨impossible, _⟩ | inRest
        · cases impossible
        · exact ih later recorded inRest
      | claimed =>
        rcases accept with ⟨fresh, here⟩ | inRest
        · subst here
          subst same
          exact absurd ⟨time, recorded, recent⟩ (ReplayCache.claim_iff.mp fresh)
        · have kept := ih later (ReplayCache.mem_claim_of_mem recorded recent) inRest
          rwa [ReplayCache.ttl_claim] at kept
    · have notBefore : first.now.nanos ≤ call.now.nanos := by
        rcases List.mem_cons.mp ((accepted_sublist _).subset accept) with here | inRest
        · exact Int.le_of_eq (congrArg (fun call => call.now.nanos) here.symm)
        · exact after call inRest
      exact Int.lt_of_lt_of_le (Int.not_le.mp recent) (Time.sub_mono notBefore time)

/-- Two accepted calls for one node and code are more than the cache's lifetime
apart. -/
theorem pairwise_accepted (ordered : Ordered calls) (cache : ReplayCache) :
    (accepted hmac (some cache) calls).Pairwise fun first second =>
      first.Same second → cache.ttl < second.now.sub first.now := by
  induction calls generalizing cache with
  | nil => exact .nil
  | cons first rest ih =>
    have later := (List.pairwise_cons.mp ordered).2
    have use := uses hmac cache first
    rw [accepted]
    generalize first.result hmac (some cache) = outcome at use
    cases use with
    | rejected => exact ih later cache
    | claimed =>
      have tail := ih later (cache.claim first.nodeId (trimSpace first.code) first.now).2
      rw [ReplayCache.ttl_claim] at tail
      split_ifs with fresh
      · apply List.pairwise_cons.mpr
        refine ⟨?_, tail⟩
        intro second accept same
        have apart := expired_of_accepted later (ReplayCache.mem_claim_of_fresh fresh) accept
          (key_of_same same).symm
        rwa [ReplayCache.ttl_claim] at apart
      · exact tail

end Call

/-! ## The contract -/

/-- A code from within the window is accepted unless the cache has an unexpired claim of it for
the node, where the cache is nil or any one that calls can leave; and two accepted calls of one
node and code are more than 180 seconds apart, so they are never both near one interval. -/
theorem validate_accepts_once (hmac : Hmac) :
    (∀ secret (time now : Time) ttl (used : Option (List Claim)) nodeId, 0 ≤ time.nanos →
      0 ≤ now.nanos → now.Near time.interval →
      ((validate hmac secret (generate hmac secret time) now (used.map (.of ttl)) nodeId).1 =
          true ↔ ∀ claims ∈ used, ∀ claim ∈ claims, claim.nodeId = nodeId →
        claim.code = generate hmac secret time → ttl < now.sub claim.time)) ∧
    (∀ calls : List Call, ∃ claims,
      calls.foldl (fun used call => (call.result hmac used).2) (some .new) =
        some (.of ReplayCache.new.ttl claims)) ∧
    ∀ calls, Call.Ordered calls →
      (Call.accepted hmac (some .new) calls).Pairwise fun first later =>
        first.Same later → 180 * second < later.now.nanos - first.now.nanos ∧
            ∀ interval, ¬(first.now.Near interval ∧ later.now.Near interval) := by
  refine ⟨?_, Call.exists_foldl_result_eq_of hmac _ [], ?_⟩
  · intro secret time now ttl used nodeId epoch present near
    rw [validate_generate epoch present near]
    cases used with
    | none => simp [claimIn]
    | some claims =>
      simp only [Option.mem_def, Option.some.injEq, forall_eq']
      exact ReplayCache.claim_of_iff (length_generateAtCounter ..)
  · intro calls ordered
    apply (Call.pairwise_accepted ordered .new).imp
    intro first later apart same
    have lifetime : 180 * second < later.now.sub first.now := apart same
    constructor
    · simp only [Time.sub, second] at lifetime ⊢
      omega
    · rintro interval ⟨near, other⟩
      have close := Time.sub_le_of_near near other
      simp only [second] at close lifetime
      omega

/-- Calls with one code at 0, 1, 180 and 181 seconds after the epoch, the second of them for
another node. -/
def replays : List Call :=
  [{ secret := [], code := "000000", now := ⟨0, by decide, by decide⟩, nodeId := "n" },
    { secret := [], code := "000000", now := ⟨10 ^ 9, by decide, by decide⟩, nodeId := "m" },
    { secret := [], code := " 000000", now := ⟨180 * 10 ^ 9, by decide, by decide⟩, nodeId := "n" },
    { secret := [], code := "000000", now := ⟨181 * 10 ^ 9, by decide, by decide⟩, nodeId := "n" }]

/-- The third call is a replay, the others are not: what one node has claimed does not keep
another from it. -/
theorem validate_accepts_once_replays :
    (Call.accepted (fun _ _ => .replicate 20 0) (some .new) replays).map (·.now.nanos) =
        [0, 10 ^ 9, 181 * 10 ^ 9] ∧
      ((validate (fun _ _ => .replicate 20 0) [] "000000" ⟨61 * 10 ^ 9, by decide, by decide⟩
        (some (.of (180 * second) [⟨"n", "000000", ⟨0, by decide, by decide⟩, by decide⟩]))
        "m").1 = true) ∧
      (Call.accepted (fun _ _ => .replicate 20 0) (some .new) replays).Pairwise fun first later =>
        first.Same later → 180 * second < later.now.nanos - first.now.nanos ∧
            ∀ interval, ¬(first.now.Near interval ∧ later.now.Near interval) := by
  refine ⟨by decide +kernel, ?_, ?_⟩
  · have window := (validate_accepts_once fun _ _ => .replicate 20 0).1 []
      ⟨0, by decide, by decide⟩ ⟨61 * 10 ^ 9, by decide, by decide⟩ (180 * second)
      (some [⟨"n", "000000", ⟨0, by decide, by decide⟩, by decide⟩]) "m"
      (by decide) (by decide) (by decide)
    apply window.mpr
    intro claims some_claims claim member other
    cases some_claims
    rw [List.mem_singleton.mp member] at other
    exact absurd other (by decide)
  · exact (validate_accepts_once fun _ _ => .replicate 20 0).2.2 replays (by decide)

end LubricantNodes.Auth.Totp
