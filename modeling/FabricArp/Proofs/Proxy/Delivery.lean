import FabricArp.Proofs.Proxy.Grounds
import FabricArp.Proofs.Proxy.InRange

namespace FabricArp

namespace Handling

variable {α β : Type} {first : Handling α} {next : α → Handling β}

/-- Answers for no known host. -/
def NamesNoHost (handling : Handling α) : Prop :=
  ∀ target owner out, Action.note (.hostAnswer target owner out) ∉ handling.actions

theorem namesNoHost_iff_only :
    first.NamesNoHost ↔
      first.Only fun action =>
        ∀ target owner out, .note (.hostAnswer target owner out) ≠ action := by
  constructor
  · rintro h _ hmem target owner out rfl
    exact h target owner out hmem
  · intro h target owner out hmem
    exact h _ hmem target owner out rfl

namespace NamesNoHost

theorem of_idle (h : first.actions = []) : first.NamesNoHost :=
  namesNoHost_iff_only.mpr (.of_idle h)

theorem bind (hfirst : first.NamesNoHost) (hnext : ∀ value, (next value).NamesNoHost) :
    (first >>= next).NamesNoHost := by
  rw [namesNoHost_iff_only] at hfirst ⊢
  exact hfirst.bind fun value _ => namesNoHost_iff_only.mp (hnext value)

theorem forM {elements : List α} {body : α → Handling Unit}
    (hbody : ∀ element ∈ elements, (body element).NamesNoHost) :
    (elements.forM body).NamesNoHost :=
  namesNoHost_iff_only.mpr (.forM fun element helement =>
    namesNoHost_iff_only.mp (hbody element helement))

theorem note_seq {notice : Notice} {rest : Handling β}
    (hnotice : ∀ target owner out, Notice.hostAnswer target owner out ≠ notice)
    (hrest : rest.NamesNoHost) : (note notice >>= fun _ => rest).NamesNoHost := by
  refine .bind (namesNoHost_iff_only.mpr (.of_note ?_)) fun _ => hrest
  intro target owner out h
  exact hnotice target owner out (Action.note.inj h)

end NamesNoHost

end Handling

namespace Knowledge

section NamesNoHost

variable (knowledge : Knowledge) (frame : Frame) (out : Point)

theorem flood_namesNoHost : (knowledge.flood frame).NamesNoHost := by
  intro target owner named hmem
  obtain ⟨point, -, hsend⟩ := List.mem_map.mp hmem
  cases hsend

theorem sendTo_namesNoHost : (knowledge.sendTo frame out).NamesNoHost := by
  intro target owner named hmem
  rw [sendTo] at hmem
  split at hmem <;> cases List.mem_singleton.mp hmem

theorem answerAtBoundary_namesNoHost (request : Arp.Packet) (target : Ip) (binding : Binding)
    (arrival : Point) :
    (knowledge.answerAtBoundary request target binding arrival).NamesNoHost := by
  refine .forM fun address _ => .bind (.of_idle rfl) fun answer => ?_
  exact .note_seq nofun (knowledge.sendTo_namesNoHost answer arrival)

end NamesNoHost

/-- The hosts that a request is between, and the address that `asker` is told. -/
structure AnsweredForHost (knowledge : Knowledge) (frame : Frame) (request : Arp.Packet)
    (target ip : Ip) (requester : HostId) (owner asker : Host) (answer : Frame) : Prop where
  source : frame.source? = some requester.mac
  vlan : frame.vlan? = some requester.vlan
  owned : knowledge.topology.owner? target requester.vlan = some owner
  known : knowledge.topology.host? requester = some asker
  picked : knowledge.choice.pick? owner = some ip
  answered : request.answer ip owner.id.mac = .ok answer

variable {knowledge : Knowledge} {frame answer : Frame} {request : Arp.Packet}
  {arrival out : Point} {target named ip : Ip} {owner requester : HostId} {host asker : Host}

theorem AnsweredForHost.yields
    (path : AnsweredForHost knowledge frame request target ip requester host asker answer) :
    (knowledge.answerFromInventory frame request target).Yields (.ok ())
      (knowledge.unicast answer asker.location) :=
  answerFromInventory_yields path.vlan path.source path.owned path.known path.picked path.answered

theorem exists_answeredForHost
    (h : .note (.hostAnswer named owner out) ∈
      (knowledge.answerFromInventory frame request target).actions) :
    ∃ ip requester host asker answer,
      AnsweredForHost knowledge frame request target ip requester host asker answer ∧
      named = target ∧ owner = host.id ∧ out = asker.location := by
  obtain ⟨vlan, hvlan, h⟩ := Handling.mem_actions_bind_of_idle rfl h
  obtain ⟨source, hsource, h⟩ := Handling.mem_actions_bind_of_idle rfl h
  have hflood := knowledge.flood_namesNoHost frame
  split at h
  · rename_i host asker howned hknown
    split at h
    · rename_i ip hpicked
      obtain ⟨answer, hanswer, h⟩ := Handling.mem_actions_bind_of_idle rfl h
      refine ⟨ip, ⟨source, vlan⟩, host, asker, answer, ⟨Outcome.eq_some_of_ofOption hsource,
        Outcome.eq_some_of_ofOption hvlan, howned, hknown, hpicked,
        Outcome.eq_ok_of_orMalformed hanswer⟩, ?_⟩
      obtain hnote | ⟨-, -, hsend⟩ := Handling.mem_actions_bind h
      · cases List.mem_singleton.mp hnote
        exact ⟨rfl, rfl, rfl⟩
      · exact absurd hsend (knowledge.sendTo_namesNoHost _ _ _ _ _)
    · exact absurd h (hflood named owner out)
  · have hunresolved : Handling.NamesNoHost (do
        .note (.unresolvedRequest target vlan)
        knowledge.flood frame) := .note_seq nofun hflood
    exact absurd h (hunresolved named owner out)

theorem asks_of_read (hread : readArp frame = .ok request)
    (hop : request.op? = some (some .request)) (htarget : request.targetIp = .ok target) :
    request = ⟨frame⟩ ∧ Asks frame ⟨frame⟩ target := by
  have haccepted := ofFrame_of_readArp hread
  obtain ⟨rfl, payload, hframed⟩ := Arp.Packet.exists_framed_of_ofFrame haccepted
  exact ⟨rfl, haccepted, Arp.Packet.opcode?_of_op? hop,
    Arp.Packet.protocolLength?_of_protocolAddress hframed htarget, htarget⟩

theorem reply_eq_of_hostAnswer
    (h : .note (.hostAnswer named owner out) ∈ (knowledge.reply frame arrival).actions) :
    ∃ target, Asks frame ⟨frame⟩ target ∧
      knowledge.reply frame arrival = knowledge.answerFromInventory frame ⟨frame⟩ target := by
  obtain ⟨request, hread, h⟩ := Handling.mem_actions_bind_of_idle rfl h
  obtain ⟨op, hop, h⟩ := Handling.mem_actions_bind_of_idle rfl h
  split at h
  case isFalse => cases h
  rename_i hrequest
  obtain ⟨target, htarget, h⟩ := Handling.mem_actions_bind_of_idle rfl h
  have hop := (Outcome.eq_some_of_ofOption hop).trans (congrArg some hrequest)
  obtain ⟨rfl, hasks⟩ := asks_of_read hread hop (Outcome.eq_ok_of_orMalformed htarget)
  obtain ⟨-, payload, hframed⟩ := Arp.Packet.exists_framed_of_ofFrame hasks.accepted
  refine ⟨target, hasks, ?_⟩
  rw [reply_of_request hframed.announced hasks.accepted hasks.opcode]
  split at h
  case h_1 => exact absurd h (knowledge.answerAtBoundary_namesNoHost _ _ _ _ named owner out)
  rename_i hinterior
  obtain ⟨sender, hsender, h⟩ := Handling.mem_actions_bind_of_idle rfl h
  split at h
  · rename_i binding hinside
    have hgateway : Handling.NamesNoHost (do
        .note (.subnetHandover sender binding.point)
        knowledge.sendTo frame binding.point) :=
      .note_seq nofun (knowledge.sendTo_namesNoHost frame binding.point)
    exact absurd h (hgateway named owner out)
  · rename_i houtside
    exact resolve_of_hosts hasks.target hinterior (Outcome.eq_ok_of_orMalformed hsender) houtside

/-- Forwarding or handling the frame sends these frames and nothing else, wherever it arrives. -/
structure Delivers (knowledge : Knowledge) (frame : Frame) (sent : List Outbound) : Prop where
  forwarded : (knowledge.forward frame).Yields (.ok ()) sent
  handled : ∀ arrival, (knowledge.handle frame arrival).verdict = .handled sent

theorem delivers_of_answeredIn {question : Arp.Question} {ip : Ip} {mac : Mac}
    (answered : question.AnsweredIn frame ip mac)
    (known : knowledge.topology.host? ⟨question.source, question.vlan⟩ = some host) :
    knowledge.Delivers frame (knowledge.unicast frame host.location) := by
  obtain ⟨-, payload, hframed⟩ := Arp.Packet.exists_framed_of_ofFrame answered.accepted
  have yields := deliver_yields_claimed answered.destination answered.vlan known
  constructor
  · rw [forward_of_reply hframed.announced answered.accepted answered.opcode]
    exact yields
  · intro arrival
    rw [handle_of_reply hframed.announced answered.accepted answered.opcode]
    exact Handling.verdict_of_yields_ok yields

/-- The answer for a host, read from its bytes and forwarded, goes out of the same point once
more, as every other reply to the question does. -/
theorem delivers_of_hostAnswer {outbound : Outbound}
    (answered : .hostAnswer named owner out ∈
      Action.notices (knowledge.reply frame arrival).actions)
    (sent : outbound ∈ Action.sent (knowledge.reply frame arrival).actions) :
    outbound.out = out ∧ Action.sent (knowledge.reply frame arrival).actions = [outbound] ∧
      ∃ (question : Arp.Question) (ip : Ip) (reply : Frame),
        question.AskedIn frame ∧ question.target = named ∧
        Frame.ofBytes outbound.bytes = .ok reply ∧ question.AnsweredIn reply ip owner.mac ∧
        knowledge.Delivers reply [outbound] ∧
        ∀ (own : Frame) (ownIp : Ip) (ownMac : Mac), question.AnsweredIn own ownIp ownMac →
          knowledge.Delivers own [⟨out, own.bytes⟩] := by
  rw [Action.mem_notices] at answered
  obtain ⟨target, hasks, hreply⟩ := reply_eq_of_hostAnswer answered
  rw [hreply] at answered sent ⊢
  obtain ⟨ip, requester, host, asker, answer, path, rfl, rfl, rfl⟩ :=
    exists_answeredForHost answered
  rw [path.yields.sends] at sent ⊢
  have hunicast := unicast_eq_of_mem sent
  obtain rfl := eq_of_mem_unicast sent
  obtain ⟨question, hasked, htarget, rfl⟩ :=
    hasks.exists_question path.source path.vlan path.answered
  have hsource : requester.mac = question.source :=
    Option.some.inj (path.source.symm.trans hasked.source)
  have hvlan : requester.vlan = question.vlan := Option.some.inj (path.vlan.symm.trans hasked.vlan)
  have hknown : knowledge.topology.host? ⟨question.source, question.vlan⟩ = some asker := by
    rw [← hsource, ← hvlan]
    exact path.known
  have hdelivers : ∀ (own : Frame) (ownIp : Ip) (ownMac : Mac),
      question.AnsweredIn own ownIp ownMac →
        knowledge.Delivers own [⟨asker.location, own.bytes⟩] := by
    intro own ownIp ownMac hown
    rw [← hunicast own]
    exact delivers_of_answeredIn hown hknown
  have hanswer := question.answeredIn_answer ip host.id.mac
  exact ⟨rfl, hunicast _, question, ip, _, hasked, htarget, question.ofBytes_answer ip _, hanswer,
    hdelivers _ _ _ hanswer, hdelivers⟩

theorem delivers_of_hostAnswer_question :
    let knowledge := (Controller.ofInventory .twoHosts).classify.1.knowledge .least
    let answer : Outbound := ⟨questioner.location, (Arp.Station.reply questioned.id.mac
      ⟨10, 0, 0, 2⟩ questioner.id.mac ⟨10, 0, 0, 1⟩ .untagged).bytes⟩
    let handling := knowledge.reply question ⟨⟨"b"⟩, 1⟩
    (.hostAnswer ⟨10, 0, 0, 2⟩ questioned.id questioner.location ∈
        Action.notices handling.actions ∧ answer ∈ Action.sent handling.actions) ∧
    Action.sent handling.actions = [answer] ∧
    ∃ (asked : Arp.Question) (ip : Ip) (reply : Frame), asked.AskedIn question ∧
      Frame.ofBytes answer.bytes = .ok reply ∧ asked.AnsweredIn reply ip questioned.id.mac ∧
      knowledge.Delivers reply [answer] := by
  intro knowledge answer handling
  have hanswered : .hostAnswer ⟨10, 0, 0, 2⟩ questioned.id questioner.location ∈
      Action.notices handling.actions := by decide
  have hsent : answer ∈ Action.sent handling.actions := by decide
  obtain ⟨-, hall, asked, ip, reply, hasked, -, hread, hreply, hdelivers, -⟩ :=
    delivers_of_hostAnswer hanswered hsent
  exact ⟨⟨hanswered, hsent⟩, hall, asked, ip, reply, hasked, hread, hreply, hdelivers⟩

end Knowledge

end FabricArp
