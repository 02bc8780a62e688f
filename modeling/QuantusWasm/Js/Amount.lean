import QuantusWasm.Js.Sample
import QuantusWasm.Js.Serve

/-!
# Amounts

An amount or a tip is a bigint, a decimal string or a number, and reaches the
signer as decimal text.  Bigints and strings arrive exactly.  A number is
printed, and from `2 ^ 53` on its printed digits need not be those of its value;
only from `10 ^ 21` on is the printed form refused.
-/

namespace QuantusWasm

namespace Js

open Ecma Effect Ext

/-- The integer that an amount denotes. -/
inductive Denotes : Value → Int → Prop
  | bigint (integer : Int) : Denotes (.bigint integer) integer
  | number {number : Number} {integer : Int} (known : number.integer? = some integer) :
      Denotes (.number number) integer
  | string {text : Text} {natural : Nat}
      (decimal : Wasm.DecimalText (Wasm.trim text.toScalars) natural) :
      Denotes (.string text) natural

/-- The encoded word is the integer denoted, and a number was a safe one. -/
structure ExactlyEncoded (value : Value) (word : BitVec 128) : Prop where
  denoted : Denotes value word.toNat
  safe : ∀ number, value = .number number → number.isSafeInteger = true

/-- A number past the safe integers that is printed without an exponent. -/
def IsUnsafeNumber (value : Value) : Prop :=
  ∃ number integer, value = .number number ∧ number.integer? = some integer ∧
    2 ^ 53 ≤ integer ∧ integer < 10 ^ 21

/-! ## From a value to its digits -/

/-- A number that is accepted is a natural number, and is printed. -/
theorem exists_natural_of_toDecimal {number : Number} {field : String} {text : Text}
    (given : toDecimal (.number number) field = .ok text) :
    ∃ natural : Nat, number.integer? = some (natural : Int) ∧
      text = Text.ofChars (Number.naturalToString natural) := by
  cases known : number.integer? with
  | none => simp [toDecimal, known] at given
  | some integer =>
      simp only [toDecimal, known] at given
      split_ifs at given with negative
      have nonneg : ¬integer < 0 := fun below =>
        negative ((Number.lessThanZero_iff known).mpr below)
      rcases Int.eq_ofNat_of_zero_le (Int.not_lt.mp nonneg) with ⟨natural, rfl⟩
      cases given
      refine ⟨natural, rfl, ?_⟩
      rw [numberToString, if_neg nonneg, Int.natAbs_natCast]

/-- The printed form of a number as the parser sees it. -/
theorem toScalars_naturalToString (natural : Nat) :
    (Text.ofChars (Number.naturalToString natural)).toScalars = Number.naturalToString natural :=
  Text.toScalars_ofChars (Number.isAscii_naturalToString natural)

/-- A printed exponent is refused. -/
theorem lt_of_parse_naturalToString {natural value : Nat}
    (decimal : Wasm.DecimalText (Wasm.trim (Number.naturalToString natural)) value) :
    natural < 10 ^ 21 := by
  by_contra large
  exact Wasm.not_decimalText_of_mem
    (Number.mem_naturalToString_of_large (Nat.not_lt.mp large)) (by decide) (by decide) (by decide)
    value decimal

/-- A number that is accepted is encoded exactly when it is safe. -/
theorem exactlyEncoded_number_iff {number : Number} {field : String} {text : Text}
    {word : BitVec 128} (given : toDecimal (.number number) field = .ok text)
    (parsed : Wasm.parseU128 text.toScalars field = .ok word) :
    ExactlyEncoded (.number number) word ↔ ¬IsUnsafeNumber (.number number) := by
  obtain ⟨natural, known, rfl⟩ := exists_natural_of_toDecimal given
  rw [Wasm.parseU128_eq_ok_iff, toScalars_naturalToString] at parsed
  have small := lt_of_parse_naturalToString parsed
  by_cases safe : natural < 2 ^ 53
  · rw [Number.naturalToString_of_safe safe, Wasm.decimalText_toDigits_iff] at parsed
    constructor
    · rintro - ⟨other, integer, same, otherKnown, wide, -⟩
      cases same
      rw [known, Option.some.injEq] at otherKnown
      omega
    · intro _
      refine ⟨.number (parsed ▸ known), ?_⟩
      rintro _ ⟨⟩
      exact Number.isSafeInteger_iff.mpr ⟨natural, known, by simpa using safe⟩
  · constructor
    · intro exact_
      obtain ⟨integer, sameKnown, bounded⟩ :=
        Number.isSafeInteger_iff.mp (exact_.safe number rfl)
      rw [known, Option.some.injEq] at sameKnown
      omega
    · intro notUnsafe
      exact absurd ⟨number, natural, rfl, known, by omega, by omega⟩ notUnsafe

/-- Every unsafe number is accepted, as the digits printed for it. -/
theorem exists_parse_of_unsafe {number : Number} {natural : Nat}
    (known : number.integer? = some (natural : Int)) (small : natural < 10 ^ 21) (field : String) :
    ∃ text, toDecimal (.number number) field = .ok text ∧
      Wasm.parseU128 text.toScalars field =
        .ok (BitVec.ofNat 128 (Number.shortestDecimal natural)) := by
  have nonneg : ¬((natural : Int) < 0) := by omega
  have notNegative : number.lessThanZero = false :=
    Bool.eq_false_iff.mpr fun negative => nonneg ((Number.lessThanZero_iff known).mp negative)
  have fits : Number.shortestDecimal natural < 2 ^ 128 :=
    lt_trans (Number.shortestDecimal_lt_of_lt known small) (by decide)
  refine ⟨Text.ofChars (Number.naturalToString natural), ?_, ?_⟩
  · simp only [toDecimal, known, notNegative, Bool.false_eq_true, if_false, numberToString,
      if_neg nonneg, Int.natAbs_natCast]
  · rw [Wasm.parseU128_eq_ok_iff, toScalars_naturalToString,
      Number.naturalToString_of_lt known small, Wasm.decimalText_toDigits_iff,
      BitVec.toNat_ofNat, Nat.mod_eq_of_lt fits]

/-- A bigint that is accepted is encoded exactly. -/
theorem exactlyEncoded_bigint {integer : Int} {field : String} {text : Text} {word : BitVec 128}
    (given : toDecimal (.bigint integer) field = .ok text)
    (parsed : Wasm.parseU128 text.toScalars field = .ok word) :
    ExactlyEncoded (.bigint integer) word := by
  cases given
  rw [Wasm.parseU128_eq_ok_iff] at parsed
  rw [bigintToString] at parsed
  split_ifs at parsed with negative
  · have ascii : Text.IsAscii ('-' :: Nat.toDigits 10 integer.natAbs) :=
      Text.isAscii_cons.mpr ⟨by decide, Number.isAscii_toDigits _⟩
    rw [Text.toScalars_ofChars ascii] at parsed
    exact absurd parsed (Wasm.not_decimalText_of_mem (List.mem_cons_self ..) (by decide)
      (by decide) (by decide) _)
  · rw [Text.toScalars_ofChars (Number.isAscii_toDigits _), Wasm.decimalText_toDigits_iff] at parsed
    have integer_eq : integer = word.toNat := by omega
    refine ⟨?_, fun number same => Value.noConfusion same⟩
    rw [← integer_eq]
    exact .bigint integer

/-- Any accepted amount is encoded exactly unless it is an unsafe number. -/
theorem exactlyEncoded_iff {value : Value} {field : String} {text : Text} {word : BitVec 128}
    (given : toDecimal value field = .ok text)
    (parsed : Wasm.parseU128 text.toScalars field = .ok word) :
    ExactlyEncoded value word ↔ ¬IsUnsafeNumber value := by
  cases value with
  | number number => exact exactlyEncoded_number_iff given parsed
  | bigint integer =>
      refine iff_of_true (exactlyEncoded_bigint given parsed) ?_
      rintro ⟨_, _, same, _⟩
      contradiction
  | string content =>
      cases given
      refine iff_of_true ⟨.string (Wasm.parseU128_eq_ok_iff.mp parsed), ?_⟩ ?_
      · exact fun number same => Value.noConfusion same
      · rintro ⟨_, _, same, _⟩
        contradiction
  | undefined => simp [toDecimal] at given
  | null => simp [toDecimal] at given
  | boolean value => simp [toDecimal] at given
  | uint8Array value => simp [toDecimal] at given
  | other => simp [toDecimal] at given

/-! ## Calls -/

/-- The amount of the transfer that call bytes hold is the one given. -/
def AmountExact (amount : Value) (bytes : List UInt8) : Prop :=
  ∃ decoded, Runtime.transferCodec.decode bytes = some (decoded, []) ∧
    ExactlyEncoded amount decoded.amount

/-- The output carries the tip given and, for a transfer, the amount given. -/
def CarriesExactly (content : Content) (output : List UInt8) : Prop :=
  ∃ extrinsic, Runtime.ReadsAs output extrinsic ∧
    (content.params.tip ≠ .undefined → ExactlyEncoded content.params.tip extrinsic.tip) ∧
    ∀ params, content = .transfer params → AmountExact params.amount extrinsic.call

/-- Neither tip nor amount is an unsafe number. -/
def HasSafeAmounts (content : Content) : Prop :=
  ¬IsUnsafeNumber content.params.tip ∧
    ∀ params, content = .transfer params → ¬IsUnsafeNumber params.amount

theorem amountExact_iff {amount : Value} {transfer : Ext.TransferParams} :
    AmountExact amount (encodeCall transfer) ↔ ExactlyEncoded amount transfer.amount := by
  constructor
  · rintro ⟨decoded, read, exactly⟩
    rw [Runtime.decode_encodeCall] at read
    cases read
    rw [Runtime.amount_transferCall] at exactly
    exact exactly
  · intro exactly
    refine ⟨_, Runtime.decode_encodeCall transfer, ?_⟩
    rw [Runtime.amount_transferCall]
    exact exactly

namespace SigningCall.Execution

variable {crates : Crates} {call : SigningCall} {before after : Host} {output : List UInt8}

theorem tip_iff (execution : Execution crates call before output after)
    (given : call.content.params.tip ≠ .undefined) :
    ExactlyEncoded call.content.params.tip execution.ctx.tip ↔
      ¬IsUnsafeNumber call.content.params.tip := by
  have encoded := execution.encodes.tip
  rw [unlessUndefined_of_ne given] at encoded
  have parsed := execution.builds.tip
  rw [execution.delivers.tip_eq] at parsed
  exact exactlyEncoded_iff encoded parsed

/-- The bytes of a transfer encode the amount that was parsed. -/
theorem exists_transfer (execution : Execution crates call before output after)
    {params : TransferParams} (isTransfer : call.content = .transfer params) :
    ∃ (transfer : Ext.TransferParams) (text : Text), execution.bytes = encodeCall transfer ∧
      toDecimal params.amount "amount" = .ok text ∧
      Wasm.parseU128 text.toScalars "amount" = .ok transfer.amount := by
  have content := execution.content
  rw [isTransfer] at content
  generalize execution.bytes = bytes at content
  cases content with
  | transfer keepAlive_eq recipientGiven recipientParsed amountGiven amountParsed assetGiven =>
      exact ⟨_, _, rfl, amountGiven, amountParsed⟩

theorem amount_iff (execution : Execution crates call before output after)
    {params : TransferParams} (isTransfer : call.content = .transfer params) :
    AmountExact params.amount execution.bytes ↔ ¬IsUnsafeNumber params.amount := by
  obtain ⟨transfer, text, bytes_eq, given, parsed⟩ := execution.exists_transfer isTransfer
  rw [bytes_eq, amountExact_iff]
  exact exactlyEncoded_iff given parsed

/-- The extrinsic of a call carries the tip of its context and its bytes. -/
theorem exists_carried (execution : Execution crates call before output after) :
    ∃ extrinsic, Runtime.ReadsAs output extrinsic ∧ extrinsic.tip = execution.ctx.tip ∧
      extrinsic.call = execution.bytes := by
  obtain ⟨extrinsic, carries⟩ := execution.exists_carries
  exact ⟨extrinsic, carries.reads, carries.tip_eq, carries.call_eq⟩

/-- A call that returns carries its amounts exactly when they are safe. -/
theorem carriesExactly_iff (execution : Execution crates call before output after) :
    CarriesExactly call.content output ↔ HasSafeAmounts call.content := by
  obtain ⟨extrinsic, reads, tip_eq, call_eq⟩ := execution.exists_carried
  constructor
  · rintro ⟨other, otherReads, tipExact, amountExact⟩
    cases otherReads.unique reads
    constructor
    · rintro unsafeTip
      have given : call.content.params.tip ≠ .undefined := by
        rcases unsafeTip with ⟨_, _, tip_number, _⟩
        rw [tip_number]
        exact Value.noConfusion
      have exactly := tipExact given
      rw [tip_eq] at exactly
      exact (execution.tip_iff given).mp exactly unsafeTip
    · intro params isTransfer
      have exactly := amountExact params isTransfer
      rw [call_eq] at exactly
      exact (execution.amount_iff isTransfer).mp exactly
  · rintro ⟨tipSafe, amountSafe⟩
    refine ⟨extrinsic, reads, ?_, ?_⟩
    · intro given
      rw [tip_eq]
      exact (execution.tip_iff given).mpr tipSafe
    · intro params isTransfer
      rw [call_eq]
      exact (execution.amount_iff isTransfer).mpr (amountSafe params isTransfer)

end SigningCall.Execution

end Js

namespace Reference

open Ecma Effect Ext Js

/-- An immortal transfer from a seed. -/
def immortalTransfer (amount tip : Value) : SigningCall where
  source := .seed (.uint8Array (List.replicate 32 1))
  content := .transfer
    (transferParams amount tip (.number (Number.ofInt (0 : Nat))) .undefined)

/-- It returns when its amount and its tip are accepted. -/
theorem exists_run_immortalTransfer {amount tip : Value} {amountText tipText : Text}
    {amountValue tipValue : BitVec 128} (amountGiven : toDecimal amount "amount" = .ok amountText)
    (amountParsed : Wasm.parseU128 amountText.toScalars "amount" = .ok amountValue)
    (tipGiven : unlessUndefined tip (Text.ofChars ['0']) (fun value => toDecimal value "tip") =
      .ok tipText)
    (tipParsed : Wasm.parseU128 tipText.toScalars "tip" = .ok tipValue) :
    ∃ output after,
      ((immortalTransfer amount tip).serve crates).run Host.initial = (.ok output, after) := by
  have recipientParsed : Wasm.parseAccountId crates
      (Text.ofChars (Wasm.hexText foreignAccount.toList)).toScalars = .ok foreignAccount := by
    rw [Text.toScalars_ofChars (Wasm.isAscii_hexText _), Wasm.parseAccountId_hexText]
  have immortal : (contextOf tipValue 0 0).period = 0 := rfl
  apply @exists_run_serve tip _ .undefined tipText tipValue 0 0 .mlDsa87
    (immortalTransfer amount tip)
  · rfl
  · decide
  · decide
  · exact tipGiven
  · exact tipParsed
  · exact counter_ofInt (by decide) "period"
  · rfl
  · rfl
  · exact .transfer rfl rfl recipientParsed amountGiven amountParsed rfl
  · rfl
  · exact resolveEra_immortal immortal
  · decide

/-- Some transfer of any unsafe amount returns. -/
theorem exists_run_unsafe_amount {amount : Value} (isUnsafe : IsUnsafeNumber amount) :
    ∃ output after,
      ((immortalTransfer amount .undefined).serve crates).run Host.initial =
        (.ok output, after) := by
  rcases isUnsafe with ⟨number, integer, rfl, known, wide, small⟩
  rcases Int.eq_ofNat_of_zero_le (by omega : 0 ≤ integer) with ⟨natural, rfl⟩
  obtain ⟨_, given, parsed⟩ := exists_parse_of_unsafe known (by omega) "amount"
  exact exists_run_immortalTransfer given parsed rfl (parse_zero "tip").2

/-- And some transfer with any unsafe tip. -/
theorem exists_run_unsafe_tip {tip : Value} (isUnsafe : IsUnsafeNumber tip) :
    ∃ output after, ((immortalTransfer (.string (Text.ofChars ['0'])) tip).serve crates).run
      Host.initial = (.ok output, after) := by
  rcases isUnsafe with ⟨number, integer, rfl, known, wide, small⟩
  rcases Int.eq_ofNat_of_zero_le (by omega : 0 ≤ integer) with ⟨natural, rfl⟩
  obtain ⟨_, given, parsed⟩ := exists_parse_of_unsafe known (by omega) "tip"
  have encoded := (@unlessUndefined_of_ne _ (.number number) (by simp) (Text.ofChars ['0'])
    (fun value => toDecimal value "tip")).trans given
  exact exists_run_immortalTransfer (parse_zero "amount").1 (parse_zero "amount").2 encoded parsed

end Reference

namespace Js

open Ecma Effect Ext

/-- A call that returns carries its amount and its tip exactly when neither is
an unsafe number, and for no unsafe amount and no unsafe tip do all calls. -/
theorem carriesExactly_iff_hasSafeAmounts (amount tip : Value) :
    (∀ (crates : Crates) (call : SigningCall) before after output,
      (call.serve crates).run before = (.ok output, after) →
      (CarriesExactly call.content output ↔ HasSafeAmounts call.content)) ∧
    ((∀ (crates : Crates) source params before after output, params.amount = amount →
      (SigningCall.serve crates ⟨source, .transfer params⟩).run before = (.ok output, after) →
      ∃ extrinsic, Runtime.ReadsAs output extrinsic ∧ AmountExact amount extrinsic.call) ↔
        ¬IsUnsafeNumber amount) ∧
    (tip ≠ .undefined →
      ((∀ (crates : Crates) (call : SigningCall) before after output,
        call.content.params.tip = tip → (call.serve crates).run before = (.ok output, after) →
        ∃ extrinsic, Runtime.ReadsAs output extrinsic ∧ ExactlyEncoded tip extrinsic.tip) ↔
          ¬IsUnsafeNumber tip)) := by
  refine ⟨?_, ?_, ?_⟩
  · intro crates call before after output ran
    obtain ⟨execution⟩ := SigningCall.run_serve_eq_ok_iff.mp ran
    exact execution.carriesExactly_iff
  · constructor
    · intro always isUnsafe
      obtain ⟨output, after, ran⟩ := Reference.exists_run_unsafe_amount isUnsafe
      obtain ⟨execution⟩ := SigningCall.run_serve_eq_ok_iff.mp ran
      obtain ⟨extrinsic, reads, exactly⟩ := always _ _ _ _ _ _ rfl ran
      obtain ⟨other, otherReads, _, call_eq⟩ := execution.exists_carried
      rw [reads.unique otherReads, call_eq] at exactly
      exact (execution.amount_iff rfl).mp exactly isUnsafe
    · rintro safe crates source params before after output rfl ran
      obtain ⟨execution⟩ := SigningCall.run_serve_eq_ok_iff.mp ran
      obtain ⟨extrinsic, reads, _, call_eq⟩ := execution.exists_carried
      refine ⟨extrinsic, reads, ?_⟩
      rw [call_eq]
      exact (execution.amount_iff rfl).mpr safe
  · intro given
    constructor
    · intro always isUnsafe
      obtain ⟨output, after, ran⟩ := Reference.exists_run_unsafe_tip isUnsafe
      obtain ⟨execution⟩ := SigningCall.run_serve_eq_ok_iff.mp ran
      obtain ⟨extrinsic, reads, exactly⟩ := always _ _ _ _ _ rfl ran
      obtain ⟨other, otherReads, tip_eq, _⟩ := execution.exists_carried
      rw [reads.unique otherReads, tip_eq] at exactly
      exact (execution.tip_iff given).mp exactly isUnsafe
    · rintro safe crates call before after output rfl ran
      obtain ⟨execution⟩ := SigningCall.run_serve_eq_ok_iff.mp ran
      obtain ⟨extrinsic, reads, tip_eq, _⟩ := execution.exists_carried
      refine ⟨extrinsic, reads, ?_⟩
      rw [tip_eq]
      exact (execution.tip_iff given).mpr safe

end Js

namespace Reference

open Ecma Effect Ext Js

/-- `2 ^ 60` as a number. -/
def unsafeAmount : Value :=
  .number (Number.ofInt (2 ^ 60))

theorem integer?_unsafeAmount : (Number.ofInt (2 ^ 60)).integer? = some ((2 ^ 60 : Nat) : Int) := by
  decide +kernel

/-- The number `2 ^ 60` is signed as 1152921504606847000, which is 24 more. -/
theorem not_carriesExactly_of_unsafe :
    (∃ output after extrinsic decoded,
      ((immortalTransfer unsafeAmount .undefined).serve crates).run Host.initial =
        (.ok output, after) ∧
      Runtime.ReadsAs output extrinsic ∧
      Runtime.transferCodec.decode extrinsic.call = some (decoded, []) ∧
      decoded.amount = 1152921504606847000 ∧ Denotes unsafeAmount 1152921504606846976) ∧
    ¬∀ (crates : Crates) (call : SigningCall) before after output,
      (call.serve crates).run before = (.ok output, after) →
      CarriesExactly call.content output := by
  have isUnsafe : IsUnsafeNumber unsafeAmount :=
    ⟨_, _, rfl, integer?_unsafeAmount, by decide, by decide⟩
  obtain ⟨output, after, ran⟩ := exists_run_unsafe_amount isUnsafe
  obtain ⟨execution⟩ := SigningCall.run_serve_eq_ok_iff.mp ran
  constructor
  · obtain ⟨extrinsic, reads, _, call_eq⟩ := execution.exists_carried
    obtain ⟨transfer, text, bytes_eq, given, parsed⟩ := execution.exists_transfer rfl
    obtain ⟨printed, printedGiven, printedParsed⟩ :=
      exists_parse_of_unsafe integer?_unsafeAmount (by decide) "amount"
    cases given.symm.trans printedGiven
    have amount_eq := Except.ok.inj (parsed.symm.trans printedParsed)
    have printed_eq : Number.shortestDecimal (2 ^ 60) = 1152921504606847000 := by decide +kernel
    rw [printed_eq] at amount_eq
    refine ⟨output, after, extrinsic, Runtime.transferCall transfer, ran, reads, ?_, ?_, ?_⟩
    · rw [call_eq, bytes_eq, Runtime.decode_encodeCall]
    · exact (Runtime.amount_transferCall transfer).trans amount_eq
    · exact .number integer?_unsafeAmount
  · intro always
    have safe := execution.carriesExactly_iff.mp (always _ _ _ _ _ ran)
    exact safe.2 _ rfl isUnsafe

end Reference

end QuantusWasm
