import PacketFilter.Proofs.Packet.Framing
import PacketFilter.ProgramSet.Basic

/-!
What the answers for a packet depend on. Every part of a packet that a filter asks for is read from
the network header, the transport header and the protocol, so packets that have these in common get
the same answers. With what is found in a frame, a datagram gets the same answers in every frame.
-/

namespace PacketFilter

variable {first second : Packet}

namespace Packet.SameViews

theorem ipHeader? (same : first.SameViews second) : first.ipHeader? = second.ipHeader? := by
  rw [Packet.ipHeader?, Packet.ipHeader?, same.network]

theorem tcpHeader? (same : first.SameViews second) : first.tcpHeader? = second.tcpHeader? := by
  rw [Packet.tcpHeader?, Packet.tcpHeader?, same.protocol, same.transport]

theorem ports? (same : first.SameViews second) : first.ports? = second.ports? := by
  rw [Packet.ports?, Packet.ports?, same.protocol, same.transport]

theorem addresses (same : first.SameViews second) (side : Side) :
    Predicate.addresses first side = Predicate.addresses second side := by
  rw [Predicate.addresses, Predicate.addresses, same.ipHeader?]

theorem portNumbers (same : first.SameViews second) (side : Side) :
    Predicate.portNumbers first side = Predicate.portNumbers second side := by
  rw [Predicate.portNumbers, Predicate.portNumbers, same.ports?]

theorem ofPacket? (same : first.SameViews second) (field : Field) :
    field.ofPacket? first = field.ofPacket? second := by
  cases field with
  | window => exact congrArg (Option.map TcpHeader.window) same.tcpHeader?
  | _ => exact congrArg (Option.bind · (Field.ofIpHeader? · _)) same.ipHeader?

theorem holds (same : first.SameViews second) (comparison : Comparison) (predicate : Predicate) :
    predicate.holds comparison first = predicate.holds comparison second := by
  cases predicate with
  | host side network => exact congrArg (List.any · _) (same.addresses side)
  | net side network => exact congrArg (List.any · _) (same.addresses side)
  | port side number => exact congrArg (List.any · _) (same.portNumbers side)
  | numeric field operand => exact congrArg (Option.any _) (same.ofPacket? field)
  | congested => exact congrArg (Option.any _) same.ipHeader?
  | fragment => exact congrArg (Option.any _) same.ipHeader?
  | unfragmented => exact congrArg (Option.any _) same.ipHeader?
  | tcpFlag flag => exact congrArg (Option.any _) same.tcpHeader?
  | constant value => rfl

theorem passes (same : first.SameViews second) (test : Test) :
    test.passes first = test.passes second := by
  rw [Test.passes, Test.passes, same.holds]

theorem accepts (same : first.SameViews second) (formula : Formula) :
    formula.accepts first = formula.accepts second := by
  induction formula with
  | test leaf => exact same.passes leaf
  | not operand inductionHypothesis => rw [Formula.accepts, Formula.accepts, inductionHypothesis]
  | and left right leftHypothesis rightHypothesis =>
      rw [Formula.accepts, Formula.accepts, leftHypothesis, rightHypothesis]
  | or left right leftHypothesis rightHypothesis =>
      rw [Formula.accepts, Formula.accepts, leftHypothesis, rightHypothesis]

theorem evaluateAll (same : first.SameViews second) (set : ProgramSet) :
    set.evaluateAll first = set.evaluateAll second := by
  have verdicts : Program.verdict first = Program.verdict second := by
    funext program
    rw [Program.verdict, Program.verdict, same.accepts]
  rw [ProgramSet.evaluateAll, ProgramSet.evaluateAll, verdicts]

theorem classify (same : first.SameViews second) (set : ProgramSet) :
    set.classify first = set.classify second := by
  have found : set.firstAccepting? first = set.firstAccepting? second := by
    simp only [ProgramSet.firstAccepting?, same.accepts]
  rw [ProgramSet.classify, ProgramSet.classify, found]

theorem filter (same : first.SameViews second) (set : ProgramSet) :
    set.filter first = set.filter second := by
  rw [ProgramSet.filter, ProgramSet.filter, same.evaluateAll]

theorem process (same : first.SameViews second) (set : ProgramSet) :
    set.process first = set.process second := by
  rw [ProgramSet.process, ProgramSet.process, same.classify, same.filter]

end Packet.SameViews

namespace Capture

/-- The protocol is the one that is told at the place of the network header, whoever gave the
place. -/
theorem protocol?_eq_of_place (capture : Capture) :
    capture.protocol? =
      ((capture.data.from? capture.networkOffset).bind IpHeader.ofBytes?).map
        IpHeader.protocol := by
  rw [protocol?, network]
  cases capture.data.from? capture.networkOffset <;> rfl

/-- A frame is read as the datagram that its types tell, with every place counted from the start of
the frame; giving the places that were found gives the packet again; and packets that are alike
from the network header on get the same answers from every filter and every set. -/
theorem framing_has_no_effect (data : Bytes) :
    ((∃ capture, ofEthernet? data = some capture) ↔ ∃ offset, Carries data offset) ∧
    (∀ offset, Carries data offset →
      ∃ capture, ofEthernet? data = some capture ∧ capture.networkOffset = offset ∧
        capture.packet.SameViews (ofIp (data.drop offset)).packet ∧
        capture.transportOffset =
          (ofIp (data.drop offset)).transportOffset.map (offset + ·)) ∧
    (∀ capture, capture = ofIp data ∨ ofEthernet? data = some capture →
      (Capture.mk data capture.networkOffset capture.transportOffset).packet.SameViews
        capture.packet ∧
      capture.packet.protocol =
        ((data.from? capture.networkOffset).bind IpHeader.ofBytes?).map IpHeader.protocol) ∧
    (∀ first second : Packet, first.SameViews second →
      (∀ formula : Formula, formula.accepts first = formula.accepts second) ∧
      ∀ set : ProgramSet, set.classify first = set.classify second ∧
        set.evaluateAll first = set.evaluateAll second ∧
        set.filter first = set.filter second ∧ set.process first = set.process second) := by
  refine ⟨isSome_ofEthernet?_iff, ?_, ?_, ?_⟩
  · intro offset carries
    have inside := carries.le_length
    exact ⟨locate data offset, ofEthernet?_eq_some_iff.2 ⟨offset, carries, rfl⟩, rfl,
      sameViews_locate inside, transportOffset_locate inside⟩
  · intro capture found
    have same : capture.data = data := by
      rcases found with rfl | found
      · rfl
      · obtain ⟨offset, _, rfl⟩ := ofEthernet?_eq_some_iff.1 found
        rfl
    subst same
    exact ⟨⟨rfl, rfl, rfl⟩, protocol?_eq_of_place capture⟩
  · intro first second same
    exact ⟨same.accepts, fun set =>
      ⟨same.classify set, same.evaluateAll set, same.filter set, same.process set⟩⟩

def taggedFrame : Bytes :=
  List.replicate 12 2 ++ [0x81, 0, 0, 5, 0x86, 0xDD] ++ fragmented.bytes

theorem framing_has_no_effect_of_tag :
    Carries taggedFrame 18 ∧
      ∃ capture, ofEthernet? taggedFrame = some capture ∧ capture.transportOffset = some 74 ∧
        (∀ formula : Formula,
          formula.accepts capture.packet = formula.accepts (ofIp fragmented.bytes).packet) ∧
        ∀ set : ProgramSet,
          set.process capture.packet = set.process (ofIp fragmented.bytes).packet := by
  have carries : Carries taggedFrame 18 := .tagged (by decide) (by decide) (by decide)
  obtain ⟨_, located, _, answers⟩ := framing_has_no_effect taggedFrame
  obtain ⟨capture, found, _, same, offset⟩ := located 18 carries
  have datagram : taggedFrame.drop 18 = fragmented.bytes := by decide
  rw [datagram] at same offset
  have place : (ofIp fragmented.bytes).transportOffset = some 56 :=
    Ipv6Datagram.transportOffset_ofIp (by decide)
  rw [place] at offset
  obtain ⟨accepted, sets⟩ := answers _ _ same
  exact ⟨carries, capture, found, offset, accepted, fun set => (sets set).2.2.2⟩

end Capture

end PacketFilter
