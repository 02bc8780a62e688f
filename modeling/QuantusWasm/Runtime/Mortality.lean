import QuantusWasm.Runtime.Era
import QuantusWasm.Reference

/-!
# Mortality windows

When the signer accepts a period and a block, and at which later heights the
runtime looks up the block hash that was signed.  Both follow from the window
around the block: its anchor at a height is what the runtime calls the birth of
the era.
-/

namespace QuantusWasm

open Ext

/-- The period rounded up to a power of two and clamped to 4..65536. -/
def roundedPeriod (period : Nat) : Nat :=
  max 4 (min (2 ^ Nat.clog 2 period) 65536)

namespace Ext.Window

theorem period_around (period current : Nat) :
    (around period current).period = roundedPeriod period :=
  (Periodic.two_pow_clamp 2 (Nat.clog 2 period) 16).symm

/-- The quantization step is one up to a period of 4096. -/
theorem step_around (period current : Nat) :
    (around period current).step = max 1 (roundedPeriod period / 4096) := by
  rw [← period_around period current, max_comm]
  exact (Periodic.max_two_pow_div _ 12).symm

theorem step_around_of_le {period : Nat} (small : period ≤ 4096) (current : Nat) :
    (around period current).step = 1 := by
  have clog_le : Nat.clog 2 period ≤ 12 := by
    rw [Nat.clog_le_iff_le_pow (by decide)]
    exact small
  have exponent_le : exponentFor period - 12 = 0 := by
    rw [exponentFor]
    omega
  change 2 ^ (exponentFor period - 12) = 1
  rw [exponent_le, Nat.pow_zero]

/-- A block is its own anchor exactly when it is a whole number of steps. -/
theorem anchor_around_eq_self_iff (period current : Nat) :
    Periodic.anchor (around period current).period (around period current).phase current =
      current ↔ (around period current).step ∣ current :=
  Periodic.anchor_quantize_eq_self_iff (Nat.two_pow_pos _) (step_dvd_two_pow _)

/-- From such a block on, it stays the anchor for exactly one period. -/
theorem anchor_around_eq_iff {period current height : Nat}
    (divides : (around period current).step ∣ current) (reached : current ≤ height) :
    Periodic.anchor (around period current).period (around period current).phase height =
      current ↔ height < current + (around period current).period := by
  have phase_eq : (around period current).phase = current % (around period current).period := by
    apply Periodic.quantize_eq_self_iff.mpr
    exact (Nat.dvd_mod_iff (step_dvd_two_pow _)).mpr divides
  apply Periodic.anchor_eq_iff (period_pos _) _ _ reached
  · rw [phase_eq]
    exact Nat.mod_le _ _
  · rw [phase_eq]
    exact Nat.dvd_sub_mod current

end Ext.Window

/-- The era of a context is immortal, or that of the window around its block,
or refused because the block is not its own anchor. -/
theorem resolveEra_eq (ctx : SignContext) :
    resolveEra ctx =
      if ctx.period = 0 then
        .ok (.Immortal, ctx.genesisHash)
      else if (Window.around ctx.period.toNat ctx.blockNumber.toNat).step ∣
          ctx.blockNumber.toNat then
        .ok ((Window.around ctx.period.toNat ctx.blockNumber.toNat).toEra, ctx.blockHash)
      else
        .error .invalidMortality := by
  have self_iff : (Era.mortal ctx.period ctx.blockNumber).birth ctx.blockNumber =
      ctx.blockNumber ↔
        (Window.around ctx.period.toNat ctx.blockNumber.toNat).step ∣ ctx.blockNumber.toNat := by
    rw [← UInt64.toNat_inj, Era.toNat_birth (Era.mortal_wellFormed _ _), Era.mortal_eq_toEra,
      Era.birthAt_toEra, Window.anchor_around_eq_self_iff]
  unfold resolveEra
  by_cases immortal : ctx.period = 0
  · rw [if_pos immortal, if_pos immortal]
  · by_cases divides : (Window.around ctx.period.toNat ctx.blockNumber.toNat).step ∣
      ctx.blockNumber.toNat
    · rw [if_neg immortal, if_neg immortal, if_pos divides]
      simp only [self_iff.mpr divides, ne_eq, not_true_eq_false, if_false]
      rw [Era.mortal_eq_toEra]
    · rw [if_neg immortal, if_neg immortal, if_neg divides]
      exact if_pos (self_iff.not.mpr divides)

theorem resolveEra_immortal {ctx : SignContext} (immortal : ctx.period = 0) :
    resolveEra ctx = .ok (.Immortal, ctx.genesisHash) := by
  rw [resolveEra_eq, if_pos immortal]

/-- A mortal era that resolves is that of the window around a block in whole
steps, and its checkpoint is the supplied hash. -/
theorem resolveEra_mortal_eq_ok_iff {ctx : SignContext} (mortal : ctx.period ≠ 0) {era : Era}
    {checkpoint : Bytes32} :
    resolveEra ctx = .ok (era, checkpoint) ↔
      (Window.around ctx.period.toNat ctx.blockNumber.toNat).step ∣ ctx.blockNumber.toNat ∧
        era = (Window.around ctx.period.toNat ctx.blockNumber.toNat).toEra ∧
        checkpoint = ctx.blockHash := by
  rw [resolveEra_eq, if_neg mortal]
  split_ifs with divides
  · simp only [Except.ok.injEq, Prod.mk.injEq, divides, true_and]
    exact and_congr eq_comm eq_comm
  · simp [divides]

theorem wellFormed_of_resolveEra {ctx : SignContext} {era : Era} {checkpoint : Bytes32}
    (resolved : resolveEra ctx = .ok (era, checkpoint)) : era.WellFormed := by
  by_cases immortal : ctx.period = 0
  · rw [resolveEra_immortal immortal] at resolved
    cases resolved
    exact .immortal
  · obtain ⟨_, rfl, _⟩ := (resolveEra_mortal_eq_ok_iff immortal).mp resolved
    exact .mortal _

/-- The era that the signer computes for a period and a block. -/
def Ext.Era.ofCounters (period block : UInt64) : Era :=
  if period = 0 then .Immortal else .mortal period block

theorem era_eq_ofCounters {ctx : SignContext} {era : Era} {checkpoint : Bytes32}
    (resolved : resolveEra ctx = .ok (era, checkpoint)) :
    era = .ofCounters ctx.period ctx.blockNumber := by
  by_cases immortal : ctx.period = 0
  · rw [resolveEra_immortal immortal] at resolved
    cases resolved
    rw [Era.ofCounters, if_pos immortal]
  · obtain ⟨_, rfl, _⟩ := (resolveEra_mortal_eq_ok_iff immortal).mp resolved
    rw [Era.ofCounters, if_neg immortal, Era.mortal_eq_toEra]

theorem resolveEra_eq_error_iff {ctx : SignContext} {failure : Error} :
    resolveEra ctx = .error failure ↔
      failure = .invalidMortality ∧ 0 < ctx.period ∧
        ¬max 1 (roundedPeriod ctx.period.toNat / 4096) ∣ ctx.blockNumber.toNat := by
  rw [resolveEra_eq, Window.step_around, UInt64.pos_iff_ne_zero]
  split_ifs with immortal divides
  · simp [immortal]
  · simp [divides]
  · simp only [Except.error.injEq, divides, not_false_eq_true, and_true, ne_eq, immortal]
    exact eq_comm

/-- From the block on, the era is born at the block for exactly this many
heights. -/
def OpenFor (era : Era) (block length : Nat) : Prop :=
  ∀ height, block ≤ height → (era.birthAt height = block ↔ height < block + length)

theorem OpenFor.unique {era : Era} {block left right : Nat} (leftOpen : OpenFor era block left)
    (rightOpen : OpenFor era block right) : left = right := by
  have atLeft := leftOpen (block + left) (Nat.le_add_right _ _)
  have atRight := rightOpen (block + right) (Nat.le_add_right _ _)
  rw [rightOpen _ (Nat.le_add_right _ _)] at atLeft
  rw [leftOpen _ (Nat.le_add_right _ _)] at atRight
  omega

/-- A mortal era that resolves is open for its rounded period. -/
theorem openFor_of_resolveEra {ctx : SignContext} (mortal : 0 < ctx.period) {era : Era}
    {checkpoint : Bytes32} (resolved : resolveEra ctx = .ok (era, checkpoint)) :
    OpenFor era ctx.blockNumber.toNat (roundedPeriod ctx.period.toNat) := by
  rw [UInt64.pos_iff_ne_zero] at mortal
  obtain ⟨divides, rfl, _⟩ := (resolveEra_mortal_eq_ok_iff mortal).mp resolved
  intro height reached
  rw [Era.birthAt_toEra, Window.anchor_around_eq_iff divides reached, Window.period_around]

/-- Resolution refuses exactly the blocks between quantization steps.  When it
succeeds on a mortal era, the era the runtime decodes is born at the supplied
block at every height of its period and at no later one, and the supplied hash
is the one signed; an immortal era is born at genesis at every height. -/
theorem resolveEra_anchors_exactly (ctx : SignContext) :
    (∀ failure, resolveEra ctx = .error failure ↔
      failure = .invalidMortality ∧ 0 < ctx.period ∧
        ¬max 1 (roundedPeriod ctx.period.toNat / 4096) ∣ ctx.blockNumber.toNat) ∧
    (ctx.period ≤ 4096 → ∃ resolved, resolveEra ctx = .ok resolved) ∧
    ∀ era checkpoint, resolveEra ctx = .ok (era, checkpoint) →
      ∀ rest, ∃ decoded, Runtime.decodeEra (era.encodeTo ++ rest) = some (decoded, rest) ∧
        (0 < ctx.period → checkpoint = ctx.blockHash ∧
          ∀ height, ctx.blockNumber.toNat ≤ height →
            (decoded.birthAt height = ctx.blockNumber.toNat ↔
              height < ctx.blockNumber.toNat + roundedPeriod ctx.period.toNat)) ∧
        (ctx.period = 0 → checkpoint = ctx.genesisHash ∧
          ∀ height, decoded.birthAt height = 0) := by
  refine ⟨fun failure => resolveEra_eq_error_iff, ?_, ?_⟩
  · intro small
    have step_one := Window.step_around_of_le (UInt64.le_iff_toNat_le.mp small)
      ctx.blockNumber.toNat
    rw [resolveEra_eq, step_one, if_pos (Nat.one_dvd _)]
    split_ifs
    · exact ⟨_, rfl⟩
    · exact ⟨_, rfl⟩
  · intro era checkpoint resolved rest
    refine ⟨era, Runtime.decodeEra_eq_some_iff.mpr ⟨wellFormed_of_resolveEra resolved, rfl⟩,
      ?_, ?_⟩
    · intro mortal
      have nonzero := UInt64.pos_iff_ne_zero.mp mortal
      obtain ⟨_, _, rfl⟩ := (resolveEra_mortal_eq_ok_iff nonzero).mp resolved
      exact ⟨rfl, openFor_of_resolveEra mortal resolved⟩
    · intro immortal
      rw [resolveEra_immortal immortal] at resolved
      cases resolved
      exact ⟨rfl, fun height => rfl⟩

/-! ## The period asked for -/

/-- The rounded period is a power of two that the runtime can store. -/
theorem exists_roundedPeriod_eq (period : Nat) :
    ∃ exponent, 2 ≤ exponent ∧ exponent ≤ 16 ∧ roundedPeriod period = 2 ^ exponent :=
  ⟨_, Window.exponentFor_ge period, Window.exponentFor_le period,
    (Window.period_around period 0).symm⟩

/-- Rounding keeps exactly these powers of two. -/
theorem roundedPeriod_eq_self_iff {period : Nat} :
    roundedPeriod period = period ↔
      ∃ exponent, 2 ≤ exponent ∧ exponent ≤ 16 ∧ period = 2 ^ exponent := by
  constructor
  · intro kept
    rw [← kept]
    exact exists_roundedPeriod_eq period
  · rintro ⟨exponent, least, most, rfl⟩
    have four_le : 4 ≤ 2 ^ exponent := Nat.pow_le_pow_right (n := 2) (by decide) least
    have le_last : 2 ^ exponent ≤ 65536 := Nat.pow_le_pow_right (n := 2) (by decide) most
    rw [roundedPeriod, Nat.clog_pow 2 exponent (by decide), min_eq_left le_last,
      max_eq_right four_le]

/-- Rounding never shortens a period up to the longest one. -/
theorem le_roundedPeriod {period : Nat} (small : period ≤ 65536) : period ≤ roundedPeriod period :=
  le_max_of_le_right (le_min (Nat.le_pow_clog (by decide) period) small)

theorem roundedPeriod_of_large {period : Nat} (large : 65536 ≤ period) :
    roundedPeriod period = 65536 := by
  have rounded_ge := large.trans (Nat.le_pow_clog (b := 2) (by decide) period)
  rw [roundedPeriod, min_eq_right rounded_ge]
  rfl

/-- The decoded era is open for the rounded period.  That is the period asked
for exactly when it is a power of two between 4 and 65536; any other period is
replaced, by a longer one up to 65536 and by 65536 from there on. -/
theorem resolveEra_opens_for_roundedPeriod {ctx : SignContext} (mortal : 0 < ctx.period)
    {era : Era} {checkpoint : Bytes32} (resolved : resolveEra ctx = .ok (era, checkpoint))
    (rest : List UInt8) :
    ∃ decoded, Runtime.decodeEra (era.encodeTo ++ rest) = some (decoded, rest) ∧
      OpenFor decoded ctx.blockNumber.toNat (roundedPeriod ctx.period.toNat) ∧
      (OpenFor decoded ctx.blockNumber.toNat ctx.period.toNat ↔
        ∃ exponent, 2 ≤ exponent ∧ exponent ≤ 16 ∧ ctx.period.toNat = 2 ^ exponent) ∧
      (ctx.period.toNat ≤ 65536 → ctx.period.toNat ≤ roundedPeriod ctx.period.toNat) ∧
      (65536 ≤ ctx.period.toNat → roundedPeriod ctx.period.toNat = 65536) := by
  have opened := openFor_of_resolveEra mortal resolved
  refine ⟨era, Runtime.decodeEra_eq_some_iff.mpr ⟨wellFormed_of_resolveEra resolved, rfl⟩,
    opened, ?_, le_roundedPeriod, roundedPeriod_of_large⟩
  rw [← roundedPeriod_eq_self_iff]
  constructor
  · intro asked
    exact opened.unique asked
  · intro kept
    rw [kept] at opened
    exact opened

namespace Reference

/-- The reference context resolves. -/
theorem resolveEra_reference :
    resolveEra context = .ok ((Window.around 64 100).toEra, context.blockHash) :=
  (resolveEra_mortal_eq_ok_iff (by decide)).mpr ⟨by decide, rfl, rfl⟩

/-- A context with a period of 100 blocks. -/
def hundredBlocks : SignContext :=
  { context with period := 100 }

theorem resolveEra_hundredBlocks :
    resolveEra hundredBlocks = .ok ((Window.around 100 100).toEra, context.blockHash) :=
  (resolveEra_mortal_eq_ok_iff (by decide)).mpr ⟨by decide, rfl, rfl⟩

/-- A period of 100 blocks leaves the extrinsic valid for 128. -/
theorem not_openFor_hundredBlocks :
    (∃ era checkpoint, resolveEra hundredBlocks = .ok (era, checkpoint) ∧
      OpenFor era 100 128 ∧ era.birthAt 227 = 100) ∧
    ¬∀ ctx era checkpoint rest decoded, 0 < ctx.period →
      resolveEra ctx = .ok (era, checkpoint) →
      Runtime.decodeEra (era.encodeTo ++ rest) = some (decoded, rest) →
      OpenFor decoded ctx.blockNumber.toNat ctx.period.toNat := by
  have opened := openFor_of_resolveEra (by decide) resolveEra_hundredBlocks
  have rounded : roundedPeriod hundredBlocks.period.toNat = 128 := by decide
  rw [rounded] at opened
  refine ⟨⟨_, _, resolveEra_hundredBlocks, opened, (opened 227 (by decide)).mpr (by decide)⟩, ?_⟩
  intro always
  have asked := always hundredBlocks _ _ [] _ (by decide) resolveEra_hundredBlocks
    (Runtime.decodeEra_eq_some_iff.mpr ⟨.mortal _, rfl⟩)
  exact absurd (opened.unique asked) (by decide)

/-- The period of the reference context is kept. -/
theorem resolveEra_opens_for_roundedPeriod_reference :
    ∃ decoded, Runtime.decodeEra (Window.around 64 100).toEra.encodeTo = some (decoded, []) ∧
      OpenFor decoded 100 64 := by
  obtain ⟨decoded, read, _, asked_iff, _⟩ :=
    resolveEra_opens_for_roundedPeriod (by decide) resolveEra_reference []
  rw [List.append_nil] at read
  exact ⟨decoded, read, asked_iff.mpr ⟨6, by decide, by decide, by decide⟩⟩

end Reference

end QuantusWasm
