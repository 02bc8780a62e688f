import QuantusWasm.Runtime.RoundTrip

/-!
# Signed extrinsics never repeat

A run of signing requests, some of which fail, draws randomness at most once a
request and never reuses a draw.  The format shows which bytes of an output are
its signature, so two equal outputs would carry one signature made with two
draws.
-/

namespace QuantusWasm

namespace Runtime

open Effect Ext Codec

variable {crates : Crates}

/-- An extrinsic is determined by its bytes, whatever its length. -/
theorem encodeExtrinsic_injective : Function.Injective encodeExtrinsic := by
  intro left right equal
  obtain ⟨_, bodies⟩ := compactU32.encode_append_inj equal
  apply Option.some_injective
  rw [← decodeBody_body left, ← decodeBody_body right, bodies]

/-! ## One request -/

instance : Std.Refl fun before after : Host => before.draws ≤ after.draws :=
  ⟨fun _ => le_rfl⟩

instance : IsTrans Host fun before after => before.draws ≤ after.draws :=
  ⟨fun _ _ _ => le_trans⟩

/-- Serving a request never takes back a draw. -/
theorem serve_steps_draws (request : Request crates) :
    request.serve.Steps fun before after : Host => before.draws ≤ after.draws := by
  intro before
  rcases ran : request.serve.run before with ⟨result, after⟩
  cases Request.served_of_run ran with
  | unkeyed found => exact le_rfl
  | undrawn found drawn => exact Nat.le_succ _
  | unresolved found drawn refused => exact Nat.le_succ _
  | unsigned found drawn resolved refused => exact Nat.le_succ _
  | signed found drawn resolved made => exact Nat.le_succ _

/-- What a successful request did: it made the next draw and one signature
with it, under the key and around the call it was asked for. -/
theorem exists_signature_of_ok {request : Request crates} {before after : Host}
    {output : List UInt8} (ran : request.serve.run before = (.ok output, after)) :
    ∃ (keypair : Keypair crates) (draw : Bytes32) (era : StorableEra) (checkpoint : Bytes32)
      (signature : List.Vector UInt8 keypair.scheme.signBytes),
      request.keypair = .ok keypair ∧
      crates.getrandom before.draws = some draw ∧
      resolveEra request.ctx = .ok (era.1, checkpoint) ∧
      (crates.mlDsa keypair.scheme).sign keypair.key (request.message era.1 checkpoint)
        (some signingContext) (some draw) = some signature ∧
      output = encodeExtrinsic (assembled keypair signature era request.ctx request.call) ∧
      after = before.drawn.signed
        (keypair.record (request.message era.1 checkpoint) (some draw)) := by
  cases Request.served_of_run ran with
  | signed found drawn resolved made =>
      rcases Option.map_eq_some_iff.mp made with ⟨signature, signed, rfl⟩
      refine ⟨_, _, ⟨_, wellFormed_of_resolveEra resolved⟩, _, signature, found, drawn, resolved,
        signed, ?_, rfl⟩
      rw [encodeExtrinsic, body_assembled]

/-- A record that a request logs holds the draw that request made. -/
theorem draw_of_logged {request : Request crates} {before after : Host}
    {result : Except Error (List UInt8)} {record : SignatureRecord}
    (ran : request.serve.run before = (result, after))
    (logged : after.signatures = before.signatures ++ [record]) :
    after.draws = before.draws + 1 ∧
      ∃ draw, crates.getrandom before.draws = some draw ∧ record.hedge = some draw := by
  cases Request.served_of_run ran with
  | unkeyed found => simp at logged
  | undrawn found drawn => simp at logged
  | unresolved found drawn refused => simp at logged
  | unsigned found drawn resolved refused =>
      rw [Host.signatures_signed, Host.signatures_drawn, List.append_cancel_left_eq,
        List.singleton_inj] at logged
      exact ⟨rfl, _, drawn, (congrArg SignatureRecord.hedge logged).symm⟩
  | signed found drawn resolved made =>
      rw [Host.signatures_signed, Host.signatures_drawn, List.append_cancel_left_eq,
        List.singleton_inj] at logged
      exact ⟨rfl, _, drawn, (congrArg SignatureRecord.hedge logged).symm⟩

/-- A failed draw ends a request that has a key. -/
theorem result_of_undrawn {request : Request crates} {keypair : Keypair crates}
    {before after : Host} {result : Except Error (List UInt8)}
    (found : request.keypair = .ok keypair)
    (ran : request.serve.run before = (result, after))
    (undrawn : crates.getrandom before.draws = none) :
    result = .error .rngFailed ∧ after.signatures = before.signatures := by
  rw [Request.run_serve, found] at ran
  simp only [run_signCallWithKeypair, undrawn] at ran
  cases ran
  exact ⟨rfl, rfl⟩

theorem draws_after_ok {request : Request crates} {before after : Host} {output : List UInt8}
    (ran : request.serve.run before = (.ok output, after)) : after.draws = before.draws + 1 := by
  obtain ⟨_, _, _, _, _, _, _, _, _, _, rfl⟩ := exists_signature_of_ok ran
  rfl

/-! ## Two requests -/

/-- Two outputs of equal length that differ at most in the bytes of the
signatures they carry. -/
def DifferOnlyInSignature (leftSignature rightSignature left right : List UInt8) : Prop :=
  leftSignature.length = rightSignature.length ∧ left.length = right.length ∧
    ∃ front back, left = front ++ leftSignature ++ back ∧ right = front ++ rightSignature ++ back

/-- Around the signature, an extrinsic depends on the signature's length only. -/
theorem differOnlyInSignature_assembled (keypair : Keypair crates)
    (left right : List.Vector UInt8 keypair.scheme.signBytes) (era : StorableEra)
    (ctx : SignContext) (call : List UInt8) :
    DifferOnlyInSignature left.toList right.toList
      (encodeExtrinsic (assembled keypair left era ctx call))
      (encodeExtrinsic (assembled keypair right era ctx call)) := by
  have lengths : left.toList.length = right.toList.length := by
    rw [List.Vector.toList_length, List.Vector.toList_length]
  have bodies : (extrinsicBody keypair left.toList era.1 ctx call).length =
      (extrinsicBody keypair right.toList era.1 ctx call).length := by
    simp only [extrinsicBody, List.length_append, lengths]
  refine ⟨lengths, ?_, ?_⟩
  · rw [encodeExtrinsic, encodeExtrinsic, body_assembled, body_assembled, withLength, withLength,
      List.length_append, List.length_append, bodies]
  · refine ⟨compactU32.encode (UInt32.ofNat (extrinsicBody keypair left.toList era.1 ctx
      call).length) ++ [0b10000000 ||| extrinsicVersion] ++
        encodeAddress (accountIdFromPublic crates keypair.publicKey) ++ [keypair.scheme.variant],
      keypair.publicKey ++ encodeExtra era.1 ctx.nonce ctx.tip ++ call, ?_, ?_⟩
    · rw [encodeExtrinsic, body_assembled, withLength, extrinsicBody]
      simp only [List.append_assoc]
    · rw [encodeExtrinsic, body_assembled, withLength, bodies, extrinsicBody]
      simp only [List.append_assoc]

/-- Signatures of one scheme made with different hedges differ. -/
def SeparatesHedges (crates : Crates) : Prop :=
  ∀ scheme leftKey rightKey leftMessage rightMessage leftHedge rightHedge signature,
    (crates.mlDsa scheme).sign leftKey leftMessage (some signingContext) (some leftHedge) =
      some signature →
    (crates.mlDsa scheme).sign rightKey rightMessage (some signingContext) (some rightHedge) =
      some signature →
    leftHedge = rightHedge

/-- Equal outputs carry equal signatures, so they were made with equal draws. -/
theorem draw_eq_of_output_eq (separates : SeparatesHedges crates)
    {left right : Request crates} {leftBefore leftAfter rightBefore rightAfter : Host}
    {output : List UInt8}
    (leftRan : left.serve.run leftBefore = (.ok output, leftAfter))
    (rightRan : right.serve.run rightBefore = (.ok output, rightAfter)) :
    ∃ draw, crates.getrandom leftBefore.draws = some draw ∧
      crates.getrandom rightBefore.draws = some draw := by
  obtain ⟨leftKeypair, leftDraw, leftEra, _, leftSignature, _, leftDrawn, _, leftMade, leftOutput,
    _⟩ := exists_signature_of_ok leftRan
  obtain ⟨rightKeypair, rightDraw, rightEra, _, rightSignature, _, rightDrawn, _, rightMade,
    rightOutput, _⟩ := exists_signature_of_ok rightRan
  have extrinsics := encodeExtrinsic_injective (leftOutput.symm.trans rightOutput)
  have fields : (⟨leftKeypair.scheme, leftSignature, _⟩ : SignatureField) =
      ⟨rightKeypair.scheme, rightSignature, _⟩ :=
    congrArg (fun extrinsic => extrinsic.preamble.signature) extrinsics
  rcases leftKeypair with ⟨leftScheme, leftKey⟩
  rcases rightKeypair with ⟨rightScheme, rightKey⟩
  dsimp only at fields leftMade rightMade leftSignature rightSignature
  rcases Sigma.mk.inj fields with ⟨rfl, contents⟩
  have signatures : leftSignature = rightSignature := congrArg Prod.fst (eq_of_heq contents)
  subst signatures
  have draws := separates _ _ _ _ _ _ _ _ leftMade rightMade
  subst draws
  exact ⟨leftDraw, leftDrawn, rightDrawn⟩

/-- Two successful requests with one key, call and context. -/
theorem differOnlyInSignature_of_same {left right : Request crates} {keypair : Keypair crates}
    (leftKey : left.keypair = .ok keypair) (rightKey : right.keypair = .ok keypair)
    (calls : left.call = right.call) (contexts : left.ctx = right.ctx)
    {leftBefore leftAfter rightBefore rightAfter : Host} {leftOutput rightOutput : List UInt8}
    (leftRan : left.serve.run leftBefore = (.ok leftOutput, leftAfter))
    (rightRan : right.serve.run rightBefore = (.ok rightOutput, rightAfter)) :
    ∃ leftSignature rightSignature leftRecord rightRecord,
      leftAfter.signatures = leftBefore.signatures ++ [leftRecord] ∧
      rightAfter.signatures = rightBefore.signatures ++ [rightRecord] ∧
      leftRecord.signature = some leftSignature ∧ rightRecord.signature = some rightSignature ∧
      DifferOnlyInSignature leftSignature rightSignature leftOutput rightOutput := by
  obtain ⟨leftKeypair, _, leftEra, _, leftSignature, leftFound, _, leftResolved, leftMade, rfl,
    rfl⟩ := exists_signature_of_ok leftRan
  obtain ⟨rightKeypair, _, rightEra, _, rightSignature, rightFound, _, rightResolved, rightMade,
    rfl, rfl⟩ := exists_signature_of_ok rightRan
  obtain rfl : keypair = leftKeypair := Except.ok.inj (leftKey.symm.trans leftFound)
  obtain rfl : keypair = rightKeypair := Except.ok.inj (rightKey.symm.trans rightFound)
  rw [contexts, rightResolved] at leftResolved
  have eras : rightEra = leftEra :=
    Subtype.ext (congrArg Prod.fst (Except.ok.inj leftResolved))
  subst eras
  refine ⟨leftSignature.toList, rightSignature.toList, _, _, rfl, rfl,
    Option.map_eq_some_iff.mpr ⟨_, leftMade, rfl⟩,
    Option.map_eq_some_iff.mpr ⟨_, rightMade, rfl⟩, ?_⟩
  rw [contexts, calls]
  exact differOnlyInSignature_assembled keypair leftSignature rightSignature rightEra right.ctx
    right.call

/-! ## Whole runs -/

/-- Between two states the generator returns no value twice. -/
def FreshDraws (crates : Crates) (start final : Host) : Prop :=
  ∀ first second draw, start.draws ≤ first → first < second → second < final.draws →
    crates.getrandom first = some draw → crates.getrandom second ≠ some draw

section Runs

variable {start : Host} {requests : List (Request crates)}
  {earlier later : Event (Request crates) Host Error (List UInt8)}

/-- Two requests of a run that both drew did not draw the same bytes. -/
theorem draws_ne_of_mem_trace
    (freshDraws : FreshDraws crates start (finish Request.serve requests start))
    (earlierMem : earlier ∈ trace Request.serve requests start)
    (laterMem : later ∈ trace Request.serve requests start)
    (ordered : earlier.after.draws ≤ later.before.draws)
    (earlierDrew : earlier.after.draws = earlier.before.draws + 1)
    (laterDrew : later.after.draws = later.before.draws + 1) {draw : Bytes32}
    (drawn : crates.getrandom earlier.before.draws = some draw) :
    crates.getrandom later.before.draws ≠ some draw := by
  have started := relation_of_mem_trace serve_steps_draws earlierMem
  have ended := relation_finish_of_mem_trace serve_steps_draws laterMem
  rw [earlierDrew] at ordered
  rw [laterDrew] at ended
  exact freshDraws _ _ draw started ordered ended drawn

/-- In every run of signing requests, each success signs with a draw of its own,
a failed draw returns no extrinsic, all outputs differ, and equal requests
differ in the signature bytes only. -/
theorem no_extrinsic_repeats
    (freshDraws : FreshDraws crates start (finish Request.serve requests start))
    (separates : SeparatesHedges crates) :
    (∀ event ∈ trace Request.serve requests start, ∀ output, event.result = .ok output →
      ∃ draw record extrinsic, crates.getrandom event.before.draws = some draw ∧
        event.after.draws = event.before.draws + 1 ∧
        event.after.signatures = event.before.signatures ++ [record] ∧
        record.hedge = some draw ∧ record.signature = some extrinsic.signature ∧
        output = encodeExtrinsic extrinsic) ∧
    (∀ event ∈ trace Request.serve requests start, ∀ keypair,
      event.request.keypair = .ok keypair → crates.getrandom event.before.draws = none →
      event.result = .error .rngFailed ∧
        event.after.signatures = event.before.signatures) ∧
    (trace Request.serve requests start).Pairwise fun earlier later =>
      earlier.after.draws ≤ later.before.draws ∧
      (∀ left right, earlier.after.signatures = earlier.before.signatures ++ [left] →
        later.after.signatures = later.before.signatures ++ [right] →
        left.hedge ≠ right.hedge) ∧
      (∀ left right, earlier.result = .ok left → later.result = .ok right → left ≠ right) ∧
      (∀ keypair left right, earlier.request.keypair = .ok keypair →
        later.request.keypair = .ok keypair → earlier.request.call = later.request.call →
        earlier.request.ctx = later.request.ctx → earlier.result = .ok left →
        later.result = .ok right →
        ∃ leftSignature rightSignature leftRecord rightRecord,
          earlier.after.signatures = earlier.before.signatures ++ [leftRecord] ∧
          later.after.signatures = later.before.signatures ++ [rightRecord] ∧
          leftRecord.signature = some leftSignature ∧
          rightRecord.signature = some rightSignature ∧
          DifferOnlyInSignature leftSignature rightSignature left right) := by
  refine ⟨?_, ?_, ?_⟩
  · intro event mem output succeeded
    have ran := run_eq_of_mem_trace mem
    rw [succeeded] at ran
    obtain ⟨_, draw, _, _, signature, _, drawn, _, made, output_eq, after_eq⟩ :=
      exists_signature_of_ok ran
    rw [after_eq]
    exact ⟨draw, _, _, drawn, rfl, rfl, rfl, Option.map_eq_some_iff.mpr ⟨signature, made, rfl⟩,
      output_eq⟩
  · intro event mem keypair found undrawn
    exact result_of_undrawn found (run_eq_of_mem_trace mem) undrawn
  · apply (trace_pairwise serve_steps_draws requests start).imp_of_mem
    intro earlier later earlierMem laterMem ordered
    have earlierRan := run_eq_of_mem_trace earlierMem
    have laterRan := run_eq_of_mem_trace laterMem
    refine ⟨ordered, ?_, ?_, ?_⟩
    · intro left right leftLogged rightLogged hedges
      obtain ⟨earlierDrew, draw, drawn, leftHedge⟩ := draw_of_logged earlierRan leftLogged
      obtain ⟨laterDrew, other, otherDrawn, rightHedge⟩ := draw_of_logged laterRan rightLogged
      rw [leftHedge, rightHedge, Option.some.injEq] at hedges
      subst hedges
      exact draws_ne_of_mem_trace freshDraws earlierMem laterMem ordered earlierDrew laterDrew
        drawn otherDrawn
    · rintro left right leftResult rightResult rfl
      rw [leftResult] at earlierRan
      rw [rightResult] at laterRan
      obtain ⟨draw, drawn, otherDrawn⟩ := draw_eq_of_output_eq separates earlierRan laterRan
      exact draws_ne_of_mem_trace freshDraws earlierMem laterMem ordered
        (draws_after_ok earlierRan) (draws_after_ok laterRan) drawn otherDrawn
    · intro keypair left right earlierKey laterKey calls contexts leftResult rightResult
      rw [leftResult] at earlierRan
      rw [rightResult] at laterRan
      exact differOnlyInSignature_of_same earlierKey laterKey calls contexts earlierRan laterRan

end Runs

end Runtime

namespace Reference

open Effect Ext QuantusWasm.Runtime

theorem freshDraws (start final : Host) : FreshDraws crates start final := by
  intro first second draw _ ordered _ firstDrawn secondDrawn
  have firstDrawn : (if first < 256 ^ 32 then some (fit 32 (Codec.littleEndian 32 first))
    else none) = some draw := firstDrawn
  have secondDrawn : (if second < 256 ^ 32 then some (fit 32 (Codec.littleEndian 32 second))
    else none) = some draw := secondDrawn
  split_ifs at firstDrawn secondDrawn with firstFits secondFits
  have contents : Codec.littleEndian 32 first = Codec.littleEndian 32 second := by
    rw [← toList_fit (Codec.length_littleEndian 32 first),
      ← toList_fit (Codec.length_littleEndian 32 second), Option.some.inj firstDrawn,
      Option.some.inj secondDrawn]
  exact ordered.ne (Codec.littleEndian_injOn firstFits secondFits contents)

theorem separatesHedges : SeparatesHedges crates := by
  intro scheme leftKey rightKey leftMessage rightMessage leftHedge rightHedge signature leftMade
    rightMade
  have long : 32 ≤ scheme.signBytes := by cases scheme <;> decide
  have signatures := congrArg (fun signature => signature.toList.take 32)
    (Option.some.inj (leftMade.trans rightMade.symm))
  rw [take_fit_append long (List.Vector.toList_length _),
    take_fit_append long (List.Vector.toList_length _)] at signatures
  exact List.Vector.eq _ _ signatures

/-- A request that succeeds as long as the generator does. -/
def request : Request crates :=
  .signCallWithKeypair (keypair .mlDsa87) [2, 3] context

theorem exists_run_request {host : Host} (few : host.draws < 256 ^ 32) :
    ∃ output after, request.serve.run host = (.ok output, after) :=
  exists_run_signCallWithKeypair resolveEra_reference _ _ few

/-- The same request twice. -/
theorem no_extrinsic_repeats_twice :
    ∃ first second middle final, request.serve.run Host.initial = (.ok first, middle) ∧
      request.serve.run middle = (.ok second, final) ∧ first ≠ second := by
  obtain ⟨first, middle, firstRan⟩ := @exists_run_request Host.initial (by decide)
  have middle_draws : middle.draws = 1 := draws_after_ok firstRan
  obtain ⟨second, final, secondRan⟩ : ∃ output after,
      request.serve.run middle = (.ok output, after) := by
    apply exists_run_request
    rw [middle_draws]
    decide
  have pairs := (@no_extrinsic_repeats crates Host.initial [request, request]
    (freshDraws Host.initial _) separatesHedges).2.2
  obtain ⟨_, _, differ, _⟩ := (List.pairwise_cons.mp pairs).1 _ (List.mem_singleton_self _)
  refine ⟨first, second, middle, final, firstRan, secondRan, ?_⟩
  apply differ first second
  · exact congrArg Prod.fst firstRan
  · rw [firstRan]
    exact congrArg Prod.fst secondRan

end Reference

end QuantusWasm
