import KnxStack.Bau.LayerRuns
import KnxStack.Lib.Unwinding

/-!
# How an answer is protected

The layer protects a frame as the request that it answers was protected, and keeps that request in its
inbound context. The context is written when a frame comes in, before the frame is verified, and a frame
that is rejected leaves it there.

- `rejected_unseen_iff`: what is decided for later frames is the same as if a rejected frame had never
  come in, exactly where each frame up to the next reception gets the same protection from the context
  that was left behind as from the one before.
-/

set_option autoImplicit false

namespace KnxStack.Bau

open KnxStack.Lib KnxStack.Lib.Octets KnxStack.Objects KnxStack.Security
open SecureApplicationLayer

/-! ## What a rejected frame leaves -/

/-- The object with another entry in its failure log. -/
def withLog (o : SecurityInterfaceObject) (failure : SecurityFailure) (count : UInt32)
    (source : UInt16) : SecurityInterfaceObject :=
  { o with lastFailure := failure, failureCount := count, lastFailureSource := source }

/-- Two objects that differ in the failure log only. -/
def SameButLog (o o' : SecurityInterfaceObject) : Prop :=
  ∃ failure count source, o' = withLog o failure count source

theorem sameButLog_refl (o : SecurityInterfaceObject) : SameButLog o o :=
  ⟨o.lastFailure, o.failureCount, o.lastFailureSource, rfl⟩

theorem sameButLog_logSecurityFailure (o : SecurityInterfaceObject) (failure : SecurityFailure)
    (source : UInt16) : SameButLog o (o.logSecurityFailure failure source) :=
  ⟨failure, o.failureCount + 1, source, rfl⟩

/-- The context that a frame writes before it is verified. -/
def writtenContext (o : SecurityInterfaceObject) (info : SecureFrameInfo) (tpdu : List UInt8) :
    InboundContext :=
  if isSecureApdu tpdu ∧ o.isSecurityEnabled ∧ 3 ≤ tpdu.length then
    match SecurityControlField.decode (tpdu.getD 2 0) with
    | some scf => ⟨true, true, scf.toolAccess, info.source.raw⟩
    | none => ⟨true, false, false, info.source.raw⟩
  else ⟨true, false, false, info.source.raw⟩

theorem handleData_rejected {aes : BlockCipher} {l : SecureApplicationLayer}
    {o : SecurityInterfaceObject} {info : SecureFrameInfo} {scf : SecurityControlField}
    {tpdu : List UInt8} (h : (l.handleData aes o info scf tpdu).2.2.disposition = .rejected) :
    (l.handleData aes o info scf tpdu).1 = l
      ∧ SameButLog o (l.handleData aes o info scf tpdu).2.1 := by
  simp only [handleData] at h ⊢
  split
  · exact ⟨rfl, sameButLog_refl o⟩
  · split
    · exact ⟨rfl, sameButLog_refl o⟩
    · split
      · exact ⟨rfl, sameButLog_logSecurityFailure o _ _⟩
      · split
        · exact ⟨rfl, sameButLog_logSecurityFailure o _ _⟩
        · split
          · exact ⟨rfl, sameButLog_logSecurityFailure o _ _⟩
          · simp_all

theorem handleSyncRequest_rejected {aes : BlockCipher} {l : SecureApplicationLayer}
    {o : SecurityInterfaceObject} {around : Surroundings} {info : SecureFrameInfo}
    {scf : SecurityControlField} {tpdu : List UInt8}
    (h : (l.handleSyncRequest aes o around info scf tpdu).2.2.disposition = .rejected) :
    l.handleSyncRequest aes o around info scf tpdu = (l, o, { disposition := .rejected }) := by
  simp only [handleSyncRequest] at h ⊢
  split
  · rfl
  next hlength =>
    rw [if_neg hlength] at h
    exfalso
    repeat' split at h
    all_goals cases h

theorem processIncoming_rejected {aes : BlockCipher} {l : SecureApplicationLayer}
    {o : SecurityInterfaceObject} {around : Surroundings} {info : SecureFrameInfo}
    {tpdu : List UInt8}
    (h : (l.processIncoming aes o around info tpdu).2.2.disposition = .rejected) :
    (l.processIncoming aes o around info tpdu).1 = { l with inbound := writtenContext o info tpdu }
      ∧ SameButLog o (l.processIncoming aes o around info tpdu).2.1 := by
  rw [writtenContext]
  simp only [processIncoming] at h ⊢
  by_cases hsecure : isSecureApdu tpdu = true
  · by_cases henabled : o.isSecurityEnabled = true
    · by_cases hlength : tpdu.length < 3
      · have hshort : ¬ 3 ≤ tpdu.length := by omega
        simp [hsecure, henabled, hlength, hshort, sameButLog_refl]
      · have hlong : 3 ≤ tpdu.length := by omega
        simp only [hsecure, henabled, hlong, hlength, Bool.not_true, Bool.false_eq_true, if_false,
          and_self, if_true] at h ⊢
        cases hscf : SecurityControlField.decode (tpdu.getD 2 0) with
        | none => exact ⟨rfl, sameButLog_refl o⟩
        | some scf =>
          simp only [hscf] at h ⊢
          cases hservice : scf.service with
          | data =>
            simp only [hservice] at h ⊢
            exact handleData_rejected h
          | syncRequest =>
            simp only [hservice] at h ⊢
            rw [handleSyncRequest_rejected h]
            exact ⟨rfl, sameButLog_refl o⟩
          | syncResponse =>
            simp only [hservice] at h
            cases h
    · simp [hsecure, henabled, sameButLog_refl]
  · simp only [hsecure, Bool.false_eq_true, if_false, false_and, Bool.not_false, if_true] at h ⊢
    split
    · exact ⟨rfl, sameButLog_logSecurityFailure o _ _⟩
    next hplain =>
      rw [if_neg hplain] at h
      cases h

/-! ## What a frame gets -/

/-- The protection of an answer to the request of a context. -/
def answerProtection (o : SecurityInterfaceObject) (context : InboundContext)
    (info : SecureFrameInfo) : Option (Bool × Key) :=
  if context.secured then
    (selectKey o info
      ⟨if info.destinationType.isGroupAddress then context.peer else info.destination⟩
      context.toolAccess).map fun key => (context.toolAccess, key)
  else none

/-- The protection that the last verified request of the destination had. -/
def peerProtection (l : SecureApplicationLayer) (o : SecurityInterfaceObject)
    (info : SecureFrameInfo) : Option (Bool × Key) :=
  (l.findPeer info.destination).bind fun context =>
    (selectKey o info ⟨info.destination⟩ context.toolAccess).map fun key => (context.toolAccess, key)

/-- A frame that the context can matter for: it is to be protected, and goes to no group. -/
def Contextual (o : SecurityInterfaceObject) (info : SecureFrameInfo) (plainTpdu : List UInt8) :
    Prop :=
  o.isSecurityEnabled = true ∧ 2 ≤ plainTpdu.length ∧ isSecureApdu plainTpdu = false
    ∧ ¬(info.destinationType.isGroupAddress = true ∧ info.destination ≠ 0)

/-- The protection of a frame that goes to no group, under a context. -/
def contextProtection (l : SecureApplicationLayer) (o : SecurityInterfaceObject)
    (context : InboundContext) (info : SecureFrameInfo) : Option (Bool × Key) :=
  if context.valid ∧ (info.isBroadcast ∨ context.peer = info.destination) then
    answerProtection o context info
  else if info.isBroadcast then none
  else peerProtection l o info

theorem protection_of_not_contextual {o : SecurityInterfaceObject} {info : SecureFrameInfo}
    {plainTpdu : List UInt8} (h : ¬Contextual o info plainTpdu) (l : SecureApplicationLayer)
    (context : InboundContext) :
    protection { l with inbound := context } o info plainTpdu = protection l o info plainTpdu := by
  rw [protection, protection]
  by_cases hplain : !o.isSecurityEnabled ∨ plainTpdu.length < 2 ∨ isSecureApdu plainTpdu
  · rw [if_pos hplain, if_pos hplain]
  · rw [if_neg hplain, if_neg hplain]
    have hgroup : info.destinationType.isGroupAddress = true ∧ info.destination ≠ 0 := by
      by_contra hnot
      apply h
      simp only [not_or] at hplain
      refine ⟨by simpa using hplain.1, by omega, by simpa using hplain.2.2, hnot⟩
    -- the key of a group does not depend on who asks
    rw [outgoingToolAccess, outgoingToolAccess, if_pos hgroup, if_pos hgroup]
    simp only [Option.bind_some, selectKey, Bool.false_eq_true, if_false, if_pos hgroup]

theorem protection_of_contextual {o : SecurityInterfaceObject} {info : SecureFrameInfo}
    {plainTpdu : List UInt8} (h : Contextual o info plainTpdu) (l : SecureApplicationLayer) :
    protection l o info plainTpdu = contextProtection l o l.inbound info := by
  obtain ⟨henabled, hlength, hplain, hgroup⟩ := h
  have hprotect : ¬(!o.isSecurityEnabled ∨ plainTpdu.length < 2 ∨ isSecureApdu plainTpdu) := by
    rw [henabled, hplain]
    simp only [Bool.not_true, Bool.false_eq_true, or_false, false_or, Nat.not_lt]
    exact hlength
  rw [protection, if_neg hprotect, outgoingToolAccess, if_neg hgroup, contextProtection]
  by_cases hanswers : l.inbound.valid ∧ (info.isBroadcast ∨ l.inbound.peer = info.destination)
  · rw [if_pos hanswers, if_pos hanswers, answerProtection]
    cases l.inbound.secured with
    | false => rfl
    | true => rfl
  · rw [if_neg hanswers, if_neg hanswers]
    by_cases hbroadcast : info.isBroadcast = true
    · rw [if_pos hbroadcast, if_pos hbroadcast]
      rfl
    · rw [if_neg hbroadcast, if_neg hbroadcast, peerProtection]
      have hindividual : info.destinationType.isGroupAddress = false := by
        rw [← Bool.not_eq_true]
        intro hisGroup
        rw [SecureFrameInfo.isBroadcast, hisGroup] at hbroadcast
        simp only [not_and, not_not] at hgroup
        simp [hgroup hisGroup] at hbroadcast
      rw [hindividual]
      cases l.findPeer info.destination with
      | none => rfl
      | some context => rfl

/-- A rejected frame does not disturb what is decided for a frame: the frame is of another kind,
or the context that was written gives it the protection that it has without. A broadcast, or a frame to
the sender of the rejected one, takes it for an answer to that; a frame to the sender of the frame before
is not an answer any more. -/
def Undisturbed (l : SecureApplicationLayer) (o : SecurityInterfaceObject) (written : InboundContext)
    (info : SecureFrameInfo) (plainTpdu : List UInt8) : Prop :=
  Contextual o info plainTpdu →
    if info.isBroadcast ∨ written.peer = info.destination then
      answerProtection o written info = contextProtection l o l.inbound info
    else
      l.inbound.valid ∧ l.inbound.peer = info.destination →
        peerProtection l o info = answerProtection o l.inbound info

theorem protection_eq_iff_undisturbed {l : SecureApplicationLayer} {o : SecurityInterfaceObject}
    {written : InboundContext} (hwritten : written.valid = true) (info : SecureFrameInfo)
    (plainTpdu : List UInt8) :
    protection { l with inbound := written } o info plainTpdu = protection l o info plainTpdu
      ↔ Undisturbed l o written info plainTpdu := by
  rw [Undisturbed]
  by_cases hcontextual : Contextual o info plainTpdu
  · rw [protection_of_contextual hcontextual, protection_of_contextual hcontextual]
    change contextProtection l o written info = _ ↔ _
    rw [contextProtection, hwritten]
    by_cases hanswers : info.isBroadcast ∨ written.peer = info.destination
    · simp only [hanswers, and_self, if_true, hcontextual, forall_const]
    · rw [not_or] at hanswers
      have hbroadcast : info.isBroadcast = false := by simpa using hanswers.1
      simp only [hbroadcast, hanswers.2, Bool.false_eq_true, or_self, and_false, if_false,
        hcontextual, forall_const, contextProtection, false_or]
      by_cases hbefore : l.inbound.valid = true ∧ l.inbound.peer = info.destination
      · rw [if_pos hbefore]
        simp only [hbefore, and_self, forall_const]
      · rw [if_neg hbefore]
        simp only [hbefore, false_implies]
  · rw [protection_of_not_contextual hcontextual]
    simp only [hcontextual, false_implies]

/-! ## The failure log is not looked at -/

section Log

variable (o : SecurityInterfaceObject) (failure : SecurityFailure) (count : UInt32) (source : UInt16)

theorem applyLoadControlEvent_withLog (event : UInt8) :
    (withLog o failure count source).applyLoadControlEvent event
      = withLog (o.applyLoadControlEvent event) failure count source := by
  rw [SecurityInterfaceObject.applyLoadControlEvent, SecurityInterfaceObject.applyLoadControlEvent]
  split_ifs <;> rfl

theorem resizeProperty_withLog (p : SecurityProperty) (handler : PropertyHandler)
    (elementCount : Nat) :
    (withLog o failure count source).resizeProperty p handler elementCount
      = (o.resizeProperty p handler elementCount).map
        fun o => withLog o failure count source := by
  rw [SecurityInterfaceObject.resizeProperty, SecurityInterfaceObject.resizeProperty]
  split_ifs <;> rfl

theorem writeElements_withLog (p : SecurityProperty) (handler : PropertyHandler)
    (start elementCount : Nat) (value : List UInt8) :
    (withLog o failure count source).writeElements p handler start elementCount value
      = (o.writeElements p handler start elementCount value).map
        fun o => withLog o failure count source := by
  rw [SecurityInterfaceObject.writeElements.eq_def, SecurityInterfaceObject.writeElements.eq_def]
  cases p with
  | securityMode =>
    dsimp only
    split_ifs
    · rfl
    · cases value with
      | nil => rfl
      | cons octet value => rfl
  | toolKey =>
    dsimp only
    split_ifs <;> rfl
  | sequenceNumberSending =>
    dsimp only
    split_ifs <;> rfl
  | securityFailuresLog =>
    dsimp only
    split_ifs <;> rfl
  | _ => rfl

theorem writeProperty_withLog (p : SecurityProperty) (startIndex : Nat) (value : List UInt8) :
    (withLog o failure count source).writeProperty p startIndex value
      = (o.writeProperty p startIndex value).map fun o => withLog o failure count source := by
  rw [SecurityInterfaceObject.writeProperty, SecurityInterfaceObject.writeProperty]
  cases p.handler with
  | none => rfl
  | some handler =>
    dsimp only
    rw [resizeProperty_withLog, writeElements_withLog]
    split_ifs
    · rfl
    · rfl
    · rfl
    · rfl
    · cases value with
      | nil => rfl
      | cons event value => exact congrArg some (applyLoadControlEvent_withLog o _ _ _ event)
    · rfl
    · rfl
    · rfl

theorem syncSequencesFromAddressTable_withLog :
    (withLog o failure count source).syncSequencesFromAddressTable
      = withLog o.syncSequencesFromAddressTable failure count source := by
  rw [SecurityInterfaceObject.syncSequencesFromAddressTable,
    SecurityInterfaceObject.syncSequencesFromAddressTable]
  have htable : (withLog o failure count source).iaTable = o.iaTable := rfl
  rw [htable]
  cases o.iaTable with
  | none => rfl
  | some blob => rfl

theorem setLastValid_withLog (address : IndividualAddress) (toolAccess : Bool) (seq : Nat) :
    setLastValid (withLog o failure count source) address toolAccess seq
      = withLog (setLastValid o address toolAccess seq) failure count source := by
  rw [setLastValid, setLastValid]
  cases toolAccess with
  | true =>
    simp only [if_true, SecurityInterfaceObject.setToolAccessSequence]
    change (if seq = o.toolAccessSequence then _ else _) = _
    split_ifs <;> rfl
  | false =>
    simp only [Bool.false_eq_true, if_false, SecurityInterfaceObject.setPeerSequence]
    change (if o.peerSequences address.raw = seq then _ else _) = _
    split_ifs <;> rfl

variable (aes : BlockCipher) (l : SecureApplicationLayer) (info : SecureFrameInfo)
  (scf : SecurityControlField) (tpdu : List UInt8) (around : Surroundings)

theorem handleData_withLog :
    (l.handleData aes (withLog o failure count source) info scf tpdu).1
        = (l.handleData aes o info scf tpdu).1
      ∧ SameButLog (l.handleData aes o info scf tpdu).2.1
        (l.handleData aes (withLog o failure count source) info scf tpdu).2.1 := by
  have hlast : lastValid (withLog o failure count source) info.source scf.toolAccess
      = lastValid o info.source scf.toolAccess := rfl
  have hkey : selectKey (withLog o failure count source) info info.source scf.toolAccess
      = selectKey o info info.source scf.toolAccess := rfl
  simp only [handleData, hlast, hkey, setLastValid_withLog]
  split
  · exact ⟨rfl, _, _, _, rfl⟩
  · split
    · exact ⟨rfl, _, _, _, rfl⟩
    · split
      · exact ⟨rfl, _, _, _, rfl⟩
      · split
        · exact ⟨rfl, _, _, _, rfl⟩
        · split
          · exact ⟨rfl, _, _, _, rfl⟩
          · exact ⟨rfl, _, _, _, rfl⟩

theorem handleSyncRequest_withLog :
    (l.handleSyncRequest aes (withLog o failure count source) around info scf tpdu).1
        = (l.handleSyncRequest aes o around info scf tpdu).1
      ∧ SameButLog (l.handleSyncRequest aes o around info scf tpdu).2.1
        (l.handleSyncRequest aes (withLog o failure count source) around info scf tpdu).2.1 := by
  have hlast : lastValid (withLog o failure count source) info.source scf.toolAccess
      = lastValid o info.source scf.toolAccess := rfl
  have hkey : selectKey (withLog o failure count source) info info.source scf.toolAccess
      = selectKey o info info.source scf.toolAccess := rfl
  have hsending : ∀ o : SecurityInterfaceObject,
      (withLog o failure count source).sendingSequence = o.sendingSequence := fun _ => rfl
  simp only [handleSyncRequest, hlast, hkey, setLastValid_withLog, hsending]
  split
  · exact ⟨rfl, _, _, _, rfl⟩
  · split
    · exact ⟨rfl, _, _, _, rfl⟩
    · split
      · exact ⟨rfl, _, _, _, rfl⟩
      · split
        · exact ⟨rfl, _, _, _, rfl⟩
        · split
          · exact ⟨rfl, _, _, _, rfl⟩
          · split
            · exact ⟨rfl, _, _, _, rfl⟩
            · split
              · exact ⟨rfl, _, _, _, rfl⟩
              · split
                · exact ⟨rfl, _, _, _, rfl⟩
                · exact ⟨rfl, _, _, _, rfl⟩

theorem processIncoming_withLog (context : InboundContext) :
    ({ l with inbound := context }.processIncoming aes (withLog o failure count source) around info
        tpdu).1 = (l.processIncoming aes o around info tpdu).1
      ∧ SameButLog (l.processIncoming aes o around info tpdu).2.1
        ({ l with inbound := context }.processIncoming aes (withLog o failure count source) around
          info tpdu).2.1 := by
  have henabled : (withLog o failure count source).isSecurityEnabled = o.isSecurityEnabled := rfl
  have hgroups : (withLog o failure count source).groupKeys = o.groupKeys := rfl
  simp only [processIncoming, henabled, hgroups]
  split
  · split
    · exact ⟨rfl, _, _, _, rfl⟩
    · exact ⟨rfl, _, _, _, rfl⟩
  · split
    · exact ⟨rfl, _, _, _, rfl⟩
    · split
      · exact ⟨rfl, _, _, _, rfl⟩
      · split
        · exact ⟨rfl, _, _, _, rfl⟩
        · split
          · exact handleData_withLog o failure count source aes _ info _ tpdu
          · exact handleSyncRequest_withLog o failure count source aes _ info _ tpdu around
          · exact ⟨rfl, _, _, _, rfl⟩

end Log

/-! ## Two runs -/

/-- A call, and the decision for what is sent. -/
def decisionStep (aes : BlockCipher) (r : LayerRun) (e : LayerEvent) :
    LayerRun × List (Option (Bool × Key)) :=
  (r.step aes e,
    match e with
    | .send info plainTpdu => [protection r.layer r.object info plainTpdu]
    | _ => [])

/-- The second run has the layer of the first one but for the context, and the object but for the
log. -/
def Shadows (r : LayerRun) (context : InboundContext) (r' : LayerRun) : Prop :=
  r'.layer = { r.layer with inbound := context } ∧ SameButLog r.object r'.object

theorem protection_shadow {r r' : LayerRun} {context : InboundContext} (h : Shadows r context r')
    (info : SecureFrameInfo) (plainTpdu : List UInt8) :
    protection r'.layer r'.object info plainTpdu
      = protection { r.layer with inbound := context } r.object info plainTpdu := by
  obtain ⟨hlayer, failure, count, source, hobject⟩ := h
  rw [hlayer, hobject]
  rfl

theorem Shadows.send {r r' : LayerRun} {context : InboundContext} (h : Shadows r context r')
    (aes : BlockCipher) {info : SecureFrameInfo} {plainTpdu : List UInt8}
    (hsame : protection r'.layer r'.object info plainTpdu
      = protection r.layer r.object info plainTpdu) :
    Shadows (r.step aes (.send info plainTpdu)) context (r'.step aes (.send info plainTpdu)) := by
  obtain ⟨hlayer, failure, count, source, hobject⟩ := h
  refine ⟨hlayer, ?_⟩
  change SameButLog (r.layer.processOutgoing aes r.object info plainTpdu).1
    (r'.layer.processOutgoing aes r'.object info plainTpdu).1
  rw [processOutgoing_eq, processOutgoing_eq, hsame, hobject]
  rcases protection r.layer r.object info plainTpdu with _ | ⟨toolAccess, key⟩
  · exact ⟨failure, count, source, rfl⟩
  · dsimp only
    rw [sealFrame, sealFrame]
    split_ifs
    · exact ⟨failure, count, source, rfl⟩
    · exact ⟨failure, count, source, rfl⟩

theorem Shadows.receive {r r' : LayerRun} {context : InboundContext} (h : Shadows r context r')
    (aes : BlockCipher) (around : Surroundings) (info : SecureFrameInfo) (tpdu : List UInt8) :
    Shadows (r.step aes (.receive around info tpdu))
      (r.step aes (.receive around info tpdu)).layer.inbound
      (r'.step aes (.receive around info tpdu)) := by
  obtain ⟨hlayer, failure, count, source, hobject⟩ := h
  have hsame := processIncoming_withLog r.object failure count source aes r.layer info tpdu around
    context
  rw [← hlayer, ← hobject] at hsame
  exact hsame

theorem Shadows.manage {r r' : LayerRun} {context : InboundContext} (h : Shadows r context r')
    (aes : BlockCipher) {e : LayerEvent}
    (he : (∃ p startIndex value, e = .writeProperty p startIndex value) ∨ e = .loadControlReset
      ∨ e = .syncSequencesFromAddressTable) :
    Shadows (r.step aes e) context (r'.step aes e) := by
  obtain ⟨hlayer, failure, count, source, hobject⟩ := h
  rcases he with ⟨p, startIndex, value, rfl⟩ | rfl | rfl
  · refine ⟨hlayer, failure, count, source, ?_⟩
    change (r'.object.writeProperty p startIndex value).getD r'.object
      = withLog ((r.object.writeProperty p startIndex value).getD r.object) failure count source
    rw [hobject, writeProperty_withLog]
    cases r.object.writeProperty p startIndex value with
    | none => rfl
    | some o => rfl
  · refine ⟨hlayer, failure, count, source, ?_⟩
    change r'.object.loadControlReset = _
    rw [hobject]
    rfl
  · refine ⟨hlayer, failure, count, source, ?_⟩
    change r'.object.syncSequencesFromAddressTable = _
    rw [hobject, syncSequencesFromAddressTable_withLog]
    rfl

theorem decisions_of_shadows (aes : BlockCipher) (events : List LayerEvent) :
    ∀ {r r' : LayerRun}, Shadows r r.layer.inbound r' →
      outputs (decisionStep aes) r' events = outputs (decisionStep aes) r events := by
  have hunwinding : Unwinding (decisionStep aes) (fun r r' => Shadows r r.layer.inbound r')
      fun _ _ => True := by
    have hsend : ∀ {r r' : LayerRun}, Shadows r r.layer.inbound r' → ∀ info plainTpdu,
        protection r'.layer r'.object info plainTpdu
          = protection r.layer r.object info plainTpdu :=
      fun h info plainTpdu => protection_shadow h info plainTpdu
    refine ⟨?_, ?_⟩
    · intro r r' e h _
      cases e with
      | receive around info tpdu => exact h.receive aes around info tpdu
      | send info plainTpdu => exact h.send aes (hsend h info plainTpdu)
      | writeProperty p startIndex value => exact h.manage aes (.inl ⟨_, _, _, rfl⟩)
      | loadControlReset => exact h.manage aes (.inr (.inl rfl))
      | syncSequencesFromAddressTable => exact h.manage aes (.inr (.inr rfl))
    · intro r r' e h _
      cases e with
      | send info plainTpdu => exact congrArg (fun decision => [decision]) (hsend h info plainTpdu)
      | receive around info tpdu => rfl
      | writeProperty p startIndex value => rfl
      | loadControlReset => rfl
      | syncSequencesFromAddressTable => rfl
  intro r r' h
  exact (hunwinding.run h (along_of_forall_mem r (P := fun _ => True) fun _ _ => trivial)).2

/-- Nothing that is sent up to the next reception is disturbed by the context that was written. -/
def Unseen (aes : BlockCipher) (written : InboundContext) (r : LayerRun) : List LayerEvent → Prop
  | [] => True
  | .receive _ _ _ :: _ => True
  | .send info plainTpdu :: events =>
      Undisturbed r.layer r.object written info plainTpdu
        ∧ Unseen aes written (r.step aes (.send info plainTpdu)) events
  | e :: events => Unseen aes written (r.step aes e) events

theorem decisions_eq_iff_unseen (aes : BlockCipher) {written : InboundContext}
    (hwritten : written.valid = true) (events : List LayerEvent) :
    ∀ {r r' : LayerRun}, Shadows r written r' →
      (outputs (decisionStep aes) r' events = outputs (decisionStep aes) r events
        ↔ Unseen aes written r events) := by
  induction events with
  | nil =>
    intro r r' _
    exact iff_of_true rfl trivial
  | cons e events ih =>
    intro r r' h
    cases e with
    | receive around info tpdu =>
      -- the context is written anew
      refine iff_of_true ?_ trivial
      exact decisions_of_shadows aes events (h.receive aes around info tpdu)
    | send info plainTpdu =>
      have hprotection := (protection_eq_iff_undisturbed hwritten info plainTpdu
        (l := r.layer) (o := r.object))
      rw [← protection_shadow h] at hprotection
      rw [Unseen, ← hprotection]
      change [_] ++ _ = [_] ++ _ ↔ _
      rw [List.singleton_append, List.singleton_append, List.cons_eq_cons]
      refine and_congr_right ?_
      intro hsame
      exact ih (h.send aes hsame)
    | writeProperty p startIndex value => exact ih (h.manage aes (.inl ⟨_, _, _, rfl⟩))
    | loadControlReset => exact ih (h.manage aes (.inr (.inl rfl)))
    | syncSequencesFromAddressTable => exact ih (h.manage aes (.inr (.inr rfl)))

/-- A rejected frame is not seen in what is decided later exactly where the context that it wrote
disturbs nothing up to the next reception. -/
theorem rejected_unseen_iff (aes : BlockCipher) (r : LayerRun) (around : Surroundings)
    (info : SecureFrameInfo) (tpdu : List UInt8)
    (hrejected : (r.layer.processIncoming aes r.object around info tpdu).2.2.disposition = .rejected)
    (events : List LayerEvent) :
    outputs (decisionStep aes) (r.step aes (.receive around info tpdu)) events
        = outputs (decisionStep aes) r events
      ↔ Unseen aes (writtenContext r.object info tpdu) r events := by
  have hwritten : (writtenContext r.object info tpdu).valid = true := by
    rw [writtenContext]
    repeat' split
    all_goals rfl
  exact decisions_eq_iff_unseen aes hwritten events (processIncoming_rejected hrejected)

/-- A device in Security Mode after a request of the tool at 1.1.5. -/
def toolAnswering : LayerRun :=
  { layer := { inbound := ⟨true, true, true, 0x1105⟩, peers := ⟨0x1105, true, true⟩ ::
      List.replicate 3 {}, nextPeerSlot := 1 }
    object := { keyedObject 0 with toolKey := sampleKey } }

/-- A plain group value for a secured group is rejected, and a group value is secured as before. -/
theorem rejected_plain_group_unseen :
    outputs (decisionStep sampleAes)
        (toolAnswering.step sampleAes
          (.receive {} { source := ⟨0x1106⟩, destination := 0x0901 } [0x00, 0x81]))
        [.send sampleSending.1 sampleSending.2] = [some (false, sampleKey)] := by
  have hsame := (rejected_unseen_iff sampleAes toolAnswering {}
    { source := ⟨0x1106⟩, destination := 0x0901 } [0x00, 0x81] (by decide +kernel)
    [.send sampleSending.1 sampleSending.2]).mpr
    ⟨fun h => absurd ⟨rfl, by decide⟩ h.2.2.2, trivial⟩
  rw [hsame]
  decide +kernel

/-- A rejected frame is seen. After a frame with a reserved control field that names 1.1.5 as its
sender, the answer to the tool at 1.1.5 goes out in plain. -/
theorem rejected_frame_seen :
    ¬ ∀ (aes : BlockCipher) (r : LayerRun) (around : Surroundings) (info : SecureFrameInfo)
      (tpdu : List UInt8),
      (r.layer.processIncoming aes r.object around info tpdu).2.2.disposition = .rejected →
        ∀ events, outputs (decisionStep aes) (r.step aes (.receive around info tpdu)) events
          = outputs (decisionStep aes) r events := by
  intro hunseen
  have hsame := hunseen sampleAes toolAnswering {}
    { source := ⟨0x1105⟩, destination := 0x1101, destinationType := .individual } [0x03, 0xF1, 0x05]
    (by decide +kernel)
    [.send { source := ⟨0x1101⟩, destination := 0x1105, destinationType := .individual }
      [0x03, 0xD6, 0x00, 0x01]]
  revert hsame
  decide +kernel

end KnxStack.Bau
