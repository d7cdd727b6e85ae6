import KnxStack.Datalink.CodecInversion
import KnxStack.Datalink.Tp1Transmit
import KnxStack.Network.TwoPortCoupler

/-!
# Echoes of a two-port coupler

`TwoPortCoupler::forward` remembers a hash of what it sends to a port, and `handleRx` drops what it
receives there under a remembered hash (`network/two_port_coupler.cpp`). The hash is taken over the
encoded frame, or over its addresses, hop count and TPDU when the encoding is longer than the 32
octets of a scratch buffer. The encoding has the repeat flag in it and the fields do not, and the data
link layer sets the flag when it repeats a frame (`markTxFrameAsRepeated`). So the repetition of a
short frame is not recognised (`repetition_not_suppressed`), that of a long one is.

`echo_suppression`: along every run the coupler drops what it should recognise, and drops nothing
else as long as the hashed octets themselves tell the frames apart.
-/

set_option autoImplicit false

namespace KnxStack.Network

open KnxStack.Lib KnxStack.Lib.Words KnxStack.Datalink

/-! ## What is hashed -/

/-- Octets of the scratch buffer of `hashFrame`. -/
def scratchSize : Nat := 32

/-- Addresses, hop count and TPDU, as `hashFrame` takes them from a frame that is too long. -/
def fieldOctets (frame : LDataFrame) : List UInt8 :=
  [highByte frame.source.raw, lowByte frame.source.raw, highByte frame.destination.raw,
      lowByte frame.destination.raw,
      if frame.destinationType.isGroupAddress then 1 else 0, frame.hopCount]
    ++ frame.tpdu.data

/-- The octets that `hashFrame` mixes. -/
def hashedOctets (frame : LDataFrame) : List UInt8 :=
  match encodeFrame frame scratchSize with
  | .ok octets => octets
  | .error _ => fieldOctets frame

/-- `hashFrame` is the FNV hash of these octets. -/
theorem hashFrame_eq (frame : LDataFrame) :
    hashFrame frame = (hashedOctets frame).foldl mixOctet 14695981039346656037 := by
  -- equation lemmas would compare the offset basis as a machine word
  delta hashFrame hashedOctets scratchSize
  cases encodeFrame frame 32 with
  | ok octets => rfl
  | error e => rfl

/-- The encoding of a frame fits the scratch buffer. -/
def fitsScratch (frame : LDataFrame) : Bool :=
  match encodeFrame frame scratchSize with
  | .ok _ => true
  | .error _ => false

theorem hashedOctets_of_fits {frame : LDataFrame} (h : fitsScratch frame = true) :
    hashedOctets frame = wireOctets frame ∧ frame.isValid = true ∧ 1 ≤ frame.tpdu.size := by
  unfold fitsScratch at h
  unfold hashedOctets
  cases hencode : encodeFrame frame scratchSize with
  | ok octets =>
    obtain ⟨hvalid, hsize, hoctets⟩ := encodeFrame_eq_ok hencode
    exact ⟨hoctets, hvalid, hsize⟩
  | error e =>
    rw [hencode] at h
    cases h

theorem hashedOctets_of_not_fits {frame : LDataFrame} (h : fitsScratch frame = false) :
    hashedOctets frame = fieldOctets frame := by
  unfold fitsScratch at h
  unfold hashedOctets
  cases hencode : encodeFrame frame scratchSize with
  | ok octets =>
    rw [hencode] at h
    cases h
  | error e => rfl

/-- Frames with the same addresses, hop count and TPDU. -/
structure SameTelegram (frame frame' : LDataFrame) : Prop where
  source : frame.source = frame'.source
  destination : frame.destination = frame'.destination
  hopCount : frame.hopCount = frame'.hopCount
  tpdu : frame.tpdu = frame'.tpdu

theorem eq_of_octets {w w' : UInt16} (hhigh : highByte w = highByte w')
    (hlow : lowByte w = lowByte w') : w = w' := by
  rw [← joinBytes_highByte_lowByte w, ← joinBytes_highByte_lowByte w', hhigh, hlow]

/-- Short frames over the same octets are the same up to the format flag: the octets decode to both. -/
theorem eq_of_hashedOctets {frame frame' : LDataFrame} (hfits : fitsScratch frame = true)
    (hfits' : fitsScratch frame' = true) (hoctets : hashedOctets frame = hashedOctets frame') :
    { frame with standardFrame := decide (frame.tpdu.size ≤ 16) }
      = { frame' with standardFrame := decide (frame'.tpdu.size ≤ 16) } := by
  obtain ⟨hwire, hvalid, hsize⟩ := hashedOctets_of_fits hfits
  obtain ⟨hwire', hvalid', hsize'⟩ := hashedOctets_of_fits hfits'
  rw [hwire, hwire', wireOctets, wireOctets] at hoctets
  have hdecode := decodeFrame_frameOctets hvalid hsize
  rw [hoctets, decodeFrame_frameOctets hvalid' hsize'] at hdecode
  injection hdecode with heq
  exact heq.symm

theorem sameTelegram_of_hashedOctets {frame frame' : LDataFrame}
    (hkind : fitsScratch frame = fitsScratch frame')
    (hoctets : hashedOctets frame = hashedOctets frame') : SameTelegram frame frame' := by
  cases hfits : fitsScratch frame with
  | true =>
    have heq := eq_of_hashedOctets hfits (hkind ▸ hfits) hoctets
    injection heq with _ _ _ _ _ hsource hdestination _ hhop htpdu
    exact ⟨hsource, hdestination, hhop, htpdu⟩
  | false =>
    rw [hashedOctets_of_not_fits hfits, hashedOctets_of_not_fits (hkind ▸ hfits)] at hoctets
    simp only [fieldOctets, List.cons_append, List.nil_append, List.cons.injEq] at hoctets
    obtain ⟨hs1, hs0, hd1, hd0, -, hhop, htpdu⟩ := hoctets
    exact ⟨congrArg IndividualAddress.mk (eq_of_octets hs1 hs0),
      congrArg GroupAddress.mk (eq_of_octets hd1 hd0), hhop, FixedVector.ext htpdu⟩

/-! ## Forms on the wire -/

/-- The octets of a transmission: as first sent, or as repeated after a missing acknowledge. -/
def OnWire (fwd : LDataFrame) (octets : List UInt8) : Prop :=
  ∃ sent, encodeFrame fwd txBufferSize = .ok sent ∧
    (octets = sent ∨ octets = markTxFrameAsRepeated sent)

/-- A form that has the hash of the transmission: the first one, or any that is longer than the
scratch buffer. -/
def Recognised (fwd : LDataFrame) (octets : List UInt8) : Prop :=
  ∃ sent, encodeFrame fwd txBufferSize = .ok sent ∧
    (octets = sent ∨ octets = markTxFrameAsRepeated sent ∧ scratchSize < sent.length)

theorem hashFrame_standardFrame (frame : LDataFrame) (b : Bool) :
    hashFrame { frame with standardFrame := b } = hashFrame frame := rfl

theorem length_wireOctets (frame : LDataFrame) :
    (wireOctets frame).length = (if 16 < frame.tpdu.size then 8 else 7) + frame.tpdu.size := by
  have hdata : frame.tpdu.data.length = frame.tpdu.size := rfl
  rw [wireOctets, List.length_append, List.length_singleton]
  split
  · rename_i hgt
    simp [frameOctets_extended hgt, hdata]
    omega
  · rename_i hgt
    simp [frameOctets_standard (Nat.not_lt.mp hgt), hdata]
    omega

theorem fitsScratch_iff {frame : LDataFrame} (hvalid : frame.isValid = true)
    (hsize : 1 ≤ frame.tpdu.size) :
    fitsScratch frame = true ↔ (wireOctets frame).length ≤ scratchSize := by
  have hle : frame.tpdu.size ≤ 256 := frame.tpdu.size_le
  unfold fitsScratch encodeFrame
  rw [length_wireOctets, if_neg (by simp [hvalid]), if_neg (by omega)]
  by_cases hlong : scratchSize < (if 16 < frame.tpdu.size then 8 else 7) + frame.tpdu.size
  · rw [if_pos hlong]
    simpa using hlong
  · rw [if_neg hlong]
    simpa using hlong

theorem hashFrame_repeated_of_long {frame : LDataFrame} (b : Bool) (hvalid : frame.isValid = true)
    (hsize : 1 ≤ frame.tpdu.size) (hlong : scratchSize < (wireOctets frame).length) :
    hashFrame { frame with repeated := b } = hashFrame frame := by
  have hfits : fitsScratch frame = false := by
    rw [← Bool.not_eq_true, fitsScratch_iff hvalid hsize]
    exact Nat.not_le.mpr hlong
  have hfits' : fitsScratch { frame with repeated := b } = false := by
    rw [← Bool.not_eq_true, @fitsScratch_iff { frame with repeated := b } hvalid hsize,
      length_wireOctets]
    rw [length_wireOctets] at hlong
    exact Nat.not_le.mpr hlong
  rw [hashFrame_eq, hashFrame_eq, hashedOctets_of_not_fits hfits, hashedOctets_of_not_fits hfits']
  rfl

/-- What comes back off the wire has the hash of what was sent, in a form that is recognised. -/
theorem hashFrame_of_recognised {fwd : LDataFrame} {octets : List UInt8} {frame : LDataFrame}
    (h : Recognised fwd octets) (hdecode : decodeFrame octets = .done frame) :
    hashFrame frame = hashFrame fwd := by
  obtain ⟨sent, hencode, hform⟩ := h
  obtain ⟨hvalid, hsize, rfl⟩ := encodeFrame_eq_ok hencode
  rcases hform with rfl | ⟨rfl, hlong⟩
  · rw [wireOctets, decodeFrame_frameOctets hvalid hsize] at hdecode
    injection hdecode with heq
    rw [← heq]
    exact hashFrame_standardFrame fwd _
  · rw [markTxFrameAsRepeated_wireOctets, wireOctets,
      decodeFrame_frameOctets (f := { fwd with repeated := true }) hvalid hsize] at hdecode
    injection hdecode with heq
    rw [← heq]
    exact (hashFrame_standardFrame { fwd with repeated := true } _).trans
      (hashFrame_repeated_of_long true hvalid hsize hlong)

/-! ## Runs -/

/-- What happens to a coupler: octets arrive on a port, or it is opened, closed or configured. -/
inductive CouplerInput where
  | receive (origin : CouplerPort) (octets : List UInt8)
  | configure (initialized routingEnabled : Bool) (policy : CouplerRoutingPolicy)

/-- The receive path of a port: what its data link layer decodes goes to `handleRx`. -/
def TwoPortCoupler.receiveOctets (c : TwoPortCoupler) (origin : CouplerPort) (octets : List UInt8) :
    TwoPortCoupler × List CouplerEvent :=
  match decodeFrame octets with
  | .done frame => c.handleRx origin frame
  | _ => (c, [])

/-- A coupler and what it has done, the oldest first. -/
structure CouplerRun where
  coupler : TwoPortCoupler
  log : List CouplerEvent := []

/-- One input. `init`, `close` and the setters leave the remembered hashes alone. -/
def couplerStep (r : CouplerRun) : CouplerInput → CouplerRun
  | .receive origin octets =>
      { coupler := (r.coupler.receiveOctets origin octets).1
        log := r.log ++ (r.coupler.receiveOctets origin octets).2 }
  | .configure initialized routingEnabled policy =>
      { r with
        coupler :=
          { r.coupler with
            initialized := initialized
            routingEnabled := routingEnabled
            policy := policy } }

/-- The frames sent to a port, the oldest first. -/
def sentTo (port : CouplerPort) (log : List CouplerEvent) : List LDataFrame :=
  log.filterMap fun event =>
    match event with
    | .sent p frame => if p = port then some frame else none
    | _ => none

/-- The last sixteen frames sent to a port, the newest first. -/
def CouplerRun.remembered (r : CouplerRun) (port : CouplerPort) : List LDataFrame :=
  (sentTo port r.log).reverse.take recentHashCapacity

/-- The rings hold the hashes of the remembered frames. -/
def Mirrors (r : CouplerRun) : Prop :=
  ∀ port, r.coupler.recent.at port = (r.remembered port).map hashFrame

theorem sentTo_append (port : CouplerPort) (log log' : List CouplerEvent) :
    sentTo port (log ++ log') = sentTo port log ++ sentTo port log' :=
  List.filterMap_append

/-- What a reception at `origin` may do to the rings: nothing, and then it sends nothing, or remember
the one frame it sends. -/
def RemembersSent (c : TwoPortCoupler) (origin : CouplerPort)
    (outcome : TwoPortCoupler × List CouplerEvent) : Prop :=
  (outcome.1.recent = c.recent ∧ ∀ port, sentTo port outcome.2 = []) ∨
    ∃ fwd, outcome.1.recent = (c.rememberSentTo origin.other (hashFrame fwd)).recent ∧
      ∀ port, sentTo port outcome.2 = if origin.other = port then [fwd] else []

section Reception

variable (c : TwoPortCoupler) (origin : CouplerPort)

theorem remembersSent_forward (frame : LDataFrame) (action : RoutingAction) :
    RemembersSent c origin (c.forward origin frame action) := by
  unfold TwoPortCoupler.forward
  split
  · exact Or.inl ⟨rfl, fun _ => rfl⟩
  · refine Or.inr ⟨_, rfl, ?_⟩
    intro port
    by_cases hport : origin.other = port <;> simp [sentTo, hport]

theorem remembersSent_handleRx (frame : LDataFrame) :
    RemembersSent c origin (c.handleRx origin frame) := by
  unfold TwoPortCoupler.handleRx
  split
  · exact Or.inl ⟨rfl, fun _ => rfl⟩
  · split
    · exact Or.inl ⟨rfl, fun _ => rfl⟩
    · -- the acknowledge policy and the local delivery send nothing
      have hrest : ∀ (port : CouplerPort) (ack : AckPolicy) (p : Prop) [Decidable p]
          (events : List CouplerEvent),
          sentTo port (.ackPolicy origin ack
            :: ((if p then [.localDelivery origin frame] else []) ++ events))
            = sentTo port events := by
        intro port ack p _ events
        split <;> rfl
      simp only [RemembersSent, hrest]
      cases c.policy.decide origin frame with
      | forwardLocally => exact Or.inl ⟨rfl, fun _ => rfl⟩
      | ignoreTotally => exact Or.inl ⟨rfl, fun _ => rfl⟩
      | ignoreAcked => exact Or.inl ⟨rfl, fun _ => rfl⟩
      | routeUnmodified => exact remembersSent_forward c origin frame _
      | routeDecremented => exact remembersSent_forward c origin frame _
      | routeLast => exact remembersSent_forward c origin frame _

theorem remembersSent_receiveOctets (octets : List UInt8) :
    RemembersSent c origin (c.receiveOctets origin octets) := by
  unfold TwoPortCoupler.receiveOctets
  split
  · exact remembersSent_handleRx c origin _
  · exact Or.inl ⟨rfl, fun _ => rfl⟩

end Reception

theorem remember_map {frames : List LDataFrame} (fwd : LDataFrame) :
    RecentHashes.remember ((frames.take recentHashCapacity).map hashFrame) (hashFrame fwd)
      = ((fwd :: frames).take recentHashCapacity).map hashFrame := by
  rw [RecentHashes.remember, ← List.map_cons, ← List.map_take]
  simp [recentHashCapacity, List.take_take]

theorem recent_rememberSentTo (c : TwoPortCoupler) (port port' : CouplerPort) (h : UInt64) :
    (c.rememberSentTo port h).recent.at port'
      = if port = port' then (c.recent.at port').remember h else c.recent.at port' := by
  cases port <;> cases port' <;> rfl

theorem Mirrors.step {r : CouplerRun} (h : Mirrors r) (input : CouplerInput) :
    Mirrors (couplerStep r input) := by
  cases input with
  | configure initialized routingEnabled policy => exact h
  | receive origin octets =>
    intro port
    have hport := h port
    rw [CouplerRun.remembered] at hport
    rw [couplerStep, CouplerRun.remembered, sentTo_append]
    rcases remembersSent_receiveOctets r.coupler origin octets with
      ⟨hsame, hnone⟩ | ⟨fwd, hrecent, hsent⟩
    · rw [hsame, hnone port, List.append_nil]
      exact hport
    · rw [hrecent, hsent port, recent_rememberSentTo, hport]
      by_cases hto : origin.other = port
      · rw [if_pos hto, if_pos hto, List.reverse_append, List.reverse_singleton,
          List.singleton_append]
        exact remember_map fwd
      · rw [if_neg hto, if_neg hto, List.append_nil]

theorem mirrors_run {c : TwoPortCoupler} (hnew : c.recent = ⟨[], []⟩) (inputs : List CouplerInput) :
    Mirrors (run couplerStep ⟨c, []⟩ inputs) := by
  have hstart : Mirrors ⟨c, []⟩ := by
    intro port
    rw [hnew]
    cases port <;> rfl
  exact run_invariant (fun _ input h => h.step input) hstart inputs

/-! ## Suppression -/

/-- No two of these frames and the received one have the same FNV hash of different octets. -/
def NoCollision (frames : List LDataFrame) (frame : LDataFrame) : Prop :=
  ∀ fwd ∈ frames, hashFrame fwd = hashFrame frame → hashedOctets fwd = hashedOctets frame

/-- The encoding of one is not the string of fields of the other. -/
def NoCoincidence (frames : List LDataFrame) (frame : LDataFrame) : Prop :=
  ∀ fwd ∈ frames, hashedOctets fwd = hashedOctets frame → fitsScratch fwd = fitsScratch frame

/-- `handleRx` drops the frame as an echo. -/
def TwoPortCoupler.Suppressed (c : TwoPortCoupler) (port : CouplerPort) (frame : LDataFrame) : Prop :=
  hashFrame frame ∈ c.recent.at port

theorem handleRx_of_suppressed {c : TwoPortCoupler} {port : CouplerPort} {frame : LDataFrame}
    (h : c.Suppressed port frame) : c.handleRx port frame = (c, []) := by
  unfold TwoPortCoupler.handleRx
  split
  · rfl
  · rw [if_pos (show hashFrame frame ∈ c.recent.at port from h)]

/-- What the coupler sends is never marked as a repetition. -/
def SendsFresh (r : CouplerRun) : Prop :=
  ∀ port fwd, CouplerEvent.sent port fwd ∈ r.log → fwd.repeated = false

theorem SendsFresh.step {r : CouplerRun} (h : SendsFresh r) (input : CouplerInput) :
    SendsFresh (couplerStep r input) := by
  cases input with
  | configure initialized routingEnabled policy => exact h
  | receive origin octets =>
    intro port fwd hmem
    rcases List.mem_append.mp hmem with hold | hnew
    · exact h port fwd hold
    · unfold TwoPortCoupler.receiveOctets at hnew
      split at hnew
      · obtain ⟨-, action, -, -, rfl⟩ := TwoPortCoupler.sent_of_handleRx hnew
        rfl
      · cases hnew

theorem repeated_of_remembered {c : TwoPortCoupler} (inputs : List CouplerInput) {port : CouplerPort}
    {fwd : LDataFrame} (h : fwd ∈ (run couplerStep ⟨c, []⟩ inputs).remembered port) :
    fwd.repeated = false := by
  have hstart : SendsFresh ⟨c, []⟩ := by
    intro port fwd hmem
    cases hmem
  have hstep : ∀ (r : CouplerRun) (input : CouplerInput), SendsFresh r →
      SendsFresh (couplerStep r input) := by
    intro r input hr
    exact hr.step input
  have hfresh := run_invariant hstep hstart inputs
  have hsent := List.mem_reverse.mp (List.mem_of_mem_take h)
  obtain ⟨event, hevent, heq⟩ := List.mem_filterMap.mp hsent
  cases event with
  | sent p frame =>
    dsimp only at heq
    split at heq
    · cases heq
      exact hfresh p _ hevent
    · cases heq
  | _ => cases heq

theorem unrecognised_form {fwd frame : LDataFrame} {octets : List UInt8} (h : OnWire fwd octets)
    (hnot : ¬ Recognised fwd octets) (hdecode : decodeFrame octets = .done frame) :
    frame.repeated = true ∧ fitsScratch frame = true := by
  obtain ⟨sent, hencode, hform⟩ := h
  obtain ⟨hvalid, hsize, rfl⟩ := encodeFrame_eq_ok hencode
  rcases hform with rfl | rfl
  · exact absurd ⟨_, hencode, Or.inl rfl⟩ hnot
  · have hshort : (wireOctets fwd).length ≤ scratchSize := by
      by_contra hlong
      exact hnot ⟨_, hencode, Or.inr ⟨rfl, Nat.not_le.mp hlong⟩⟩
    rw [markTxFrameAsRepeated_wireOctets, wireOctets,
      decodeFrame_frameOctets (f := { fwd with repeated := true }) hvalid hsize] at hdecode
    injection hdecode with heq
    subst heq
    refine ⟨rfl, ?_⟩
    rw [length_wireOctets] at hshort
    have hfits := (@fitsScratch_iff { fwd with repeated := true } hvalid hsize).mpr
      (by rw [length_wireOctets]; exact hshort)
    exact hfits

/-- Echo suppression. Along every run of a new coupler, with any configuration and any traffic:
a recognised form of one of the last sixteen frames sent to a port is dropped there without effect.
When neither FNV collides nor the hashed octets of a short and a long frame coincide, a form that is
not recognised is not dropped, and neither is a frame that differs from each of the sixteen in an
address, the hop count or the TPDU. -/
theorem echo_suppression (c : TwoPortCoupler) (hnew : c.recent = ⟨[], []⟩)
    (inputs : List CouplerInput) (port : CouplerPort) (octets : List UInt8) :
    (∀ fwd ∈ (run couplerStep ⟨c, []⟩ inputs).remembered port, Recognised fwd octets →
        (run couplerStep ⟨c, []⟩ inputs).coupler.receiveOctets port octets
          = ((run couplerStep ⟨c, []⟩ inputs).coupler, [])) ∧
      ∀ frame, decodeFrame octets = .done frame →
        NoCollision ((run couplerStep ⟨c, []⟩ inputs).remembered port) frame →
        NoCoincidence ((run couplerStep ⟨c, []⟩ inputs).remembered port) frame →
        (∀ fwd ∈ (run couplerStep ⟨c, []⟩ inputs).remembered port, OnWire fwd octets →
          ((run couplerStep ⟨c, []⟩ inputs).coupler.Suppressed port frame
            ↔ Recognised fwd octets)) ∧
        ((∀ fwd ∈ (run couplerStep ⟨c, []⟩ inputs).remembered port, ¬ SameTelegram fwd frame) →
          ¬ (run couplerStep ⟨c, []⟩ inputs).coupler.Suppressed port frame) := by
  have hmirrors := mirrors_run hnew inputs port
  have hhit : ∀ fwd ∈ (run couplerStep ⟨c, []⟩ inputs).remembered port, ∀ frame,
      Recognised fwd octets → decodeFrame octets = .done frame →
      (run couplerStep ⟨c, []⟩ inputs).coupler.Suppressed port frame := by
    intro fwd hfwd frame hform hdecode
    rw [TwoPortCoupler.Suppressed, hmirrors, hashFrame_of_recognised hform hdecode]
    exact List.mem_map_of_mem hfwd
  constructor
  · intro fwd hfwd hform
    unfold TwoPortCoupler.receiveOctets
    split
    · rename_i frame hdecode
      exact handleRx_of_suppressed (hhit fwd hfwd frame hform hdecode)
    · rfl
  · intro frame hdecode hcollision hcoincidence
    -- a dropped frame is hashed like one of the remembered frames, over the same octets
    have hmatch : (run couplerStep ⟨c, []⟩ inputs).coupler.Suppressed port frame →
        ∃ fwd ∈ (run couplerStep ⟨c, []⟩ inputs).remembered port,
          hashedOctets fwd = hashedOctets frame ∧ fitsScratch fwd = fitsScratch frame := by
      intro hsuppressed
      rw [TwoPortCoupler.Suppressed, hmirrors] at hsuppressed
      obtain ⟨fwd, hfwd, hhash⟩ := List.mem_map.mp hsuppressed
      have hoctets := hcollision fwd hfwd hhash
      exact ⟨fwd, hfwd, hoctets, hcoincidence fwd hfwd hoctets⟩
    constructor
    · intro fwd hfwd hform
      constructor
      · intro hsuppressed
        by_contra hnot
        -- a form that is not recognised keeps its repeat flag, which no frame was sent with
        obtain ⟨hrepeated, hfits⟩ := unrecognised_form hform hnot hdecode
        obtain ⟨other, hother, hoctets, hkind⟩ := hmatch hsuppressed
        have heq := eq_of_hashedOctets (hkind.trans hfits) hfits hoctets
        injection heq with _ hflag
        rw [repeated_of_remembered inputs hother, hrepeated] at hflag
        cases hflag
      · intro hrecognised
        exact hhit fwd hfwd frame hrecognised hdecode
    · intro hdiffers hsuppressed
      obtain ⟨fwd, hfwd, hoctets, hkind⟩ := hmatch hsuppressed
      exact hdiffers fwd hfwd (sameTelegram_of_hashedOctets hkind hoctets)

/-- A repeater, and a telegram of six hops that it passes from one side to the other. -/
theorem echo_of_repeater :
    (run couplerStep ⟨{}, []⟩ [.receive .primary (wireOctets sixHopFrame)]).coupler.receiveOctets
        .secondary (wireOctets { sixHopFrame with hopCount := 5 })
      = ((run couplerStep ⟨{}, []⟩ [.receive .primary (wireOctets sixHopFrame)]).coupler, []) :=
  (echo_suppression {} rfl [.receive .primary (wireOctets sixHopFrame)] .secondary
    (wireOctets { sixHopFrame with hopCount := 5 })).1 { sixHopFrame with hopCount := 5 }
    (by decide +kernel) ⟨_, rfl, Or.inl rfl⟩

/-- The repetition of that telegram, received back, crosses the repeater again. -/
theorem repetition_not_suppressed :
    ¬ ∀ (c : TwoPortCoupler) (inputs : List CouplerInput) (port : CouplerPort)
      (octets : List UInt8), c.recent = ⟨[], []⟩ →
      ∀ fwd ∈ (run couplerStep ⟨c, []⟩ inputs).remembered port, OnWire fwd octets →
        ∀ event ∈ ((run couplerStep ⟨c, []⟩ inputs).coupler.receiveOctets port octets).2,
          ∀ p frame, event ≠ .sent p frame ∧ event ≠ .localDelivery p frame := by
  intro h
  have hsilent := h {} [.receive .primary (wireOctets sixHopFrame)] .secondary
    (markTxFrameAsRepeated (wireOctets { sixHopFrame with hopCount := 5 })) rfl
    { sixHopFrame with hopCount := 5 } (by decide +kernel) ⟨_, rfl, Or.inr rfl⟩
    (.sent .primary { sixHopFrame with hopCount := 4 }) (by decide +kernel)
    .primary { sixHopFrame with hopCount := 4 }
  exact hsilent.1 rfl

end KnxStack.Network
