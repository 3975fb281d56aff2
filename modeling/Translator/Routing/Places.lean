import Translator.Routing.Homecoming

/-! Where everything is: the streams on their devices and the links between the ports. A command moves
    one stream or one link, or it fails and leaves everything where it is. `pw-link` fails where there
    is nothing to do, so a link that was made was missing before and one that was cut was there. -/

namespace Translator.Routing

open Schemes

structure Places where
  sinkOf : Nat → Option String
  sourceOf : Nat → Option String
  links : Set (String × String)

/-- Where the effect brings what it is about. -/
def Places.after (p : Places) : Effect → Places
  | .moveSinkInput index sink => { p with sinkOf := Function.update p.sinkOf index (some sink) }
  | .moveSourceOutput index source =>
    { p with sourceOf := Function.update p.sourceOf index (some source) }
  | .link output input => { p with links := insert (output, input) p.links }
  | .unlink output input => { p with links := p.links \ {(output, input)} }
  | _ => p

def Server.places (server : Server) : Places :=
  ⟨server.sinkOf, server.sourceOf, {link | link ∈ server.links}⟩

/-- The effect can be carried out: what it is about is there, and a link is to change. -/
def Effect.Possible (server : Server) : Effect → Prop
  | .moveSinkInput index sink =>
    (server.sinkInput index).isSome ∧ (nodeNamed server.sinks sink).isSome
  | .moveSourceOutput index source =>
    (server.sourceOutput index).isSome ∧ (nodeNamed server.sources source).isSome
  | .link output input => (output, input) ∉ server.links
  | .unlink output input => (output, input) ∈ server.links
  | _ => True

/-- The effect moves a sink-input, or a source-output. -/
def Effect.movesInput : Effect → Bool
  | .moveSinkInput .. => true
  | _ => false

def Effect.movesOutput : Effect → Bool
  | .moveSourceOutput .. => true
  | _ => false

/-- The effect fails, whatever there is to do. -/
def Answer.fails (answer : Answer) : Prop := answer = .refused ∨ answer = .unconfirmed

/-- Links are left to `pw-link`. -/
def Host.Tries (host : Host) : Prop :=
  ∀ n output input, host.answer n (.link output input) ≠ .done
    ∧ host.answer n (.unlink output input) ≠ .done

/-- What a command has done that succeeded. -/
structure Carried (s : Scene) (effect : Effect) (s' : Scene) : Prop where
  kin : s.server.Kin s'.server
  places : s'.server.places = s.server.places.after effect
  watcher : s'.watcher = s.watcher
  inputs : effect.movesInput = false → s'.server.sinkInputs = s.server.sinkInputs
  outputs : effect.movesOutput = false → s'.server.sourceOutputs = s.server.sourceOutputs
  journal : s'.journal = s.journal
  tick : s'.tick = s.tick + 1

variable {host : Host} {s s' : Scene} {effect : Effect} {code : RoutingErrorCode}

theorem places_moveSinkInput {server server' : Server} {i : Nat} {sink : String}
    (h : server.moveSinkInput i sink = some server') :
    server.Kin server' ∧ server'.places = server.places.after (.moveSinkInput i sink)
      ∧ server'.sourceOutputs = server.sourceOutputs := by
  obtain ⟨hkin, hsink, houtputs, hlinks⟩ := Server.moveSinkInput_spec h
  refine ⟨hkin, ?_, houtputs⟩
  have hsinks : server'.sinkOf = Function.update server.sinkOf i (some sink) := by
    funext j
    rw [hsink, Function.update_apply]
  have hsources : server'.sourceOf = server.sourceOf := by
    funext j
    simp [Server.sourceOf, Server.sourceOutput, houtputs, hkin.sources]
  simp [Server.places, Places.after, hsinks, hsources, hlinks]

theorem places_moveSourceOutput {server server' : Server} {i : Nat} {source : String}
    (h : server.moveSourceOutput i source = some server') :
    server.Kin server' ∧ server'.places = server.places.after (.moveSourceOutput i source)
      ∧ server'.sinkInputs = server.sinkInputs := by
  obtain ⟨hkin, hsource, hinputs, hlinks⟩ := Server.moveSourceOutput_spec h
  refine ⟨hkin, ?_, hinputs⟩
  have hsources : server'.sourceOf = Function.update server.sourceOf i (some source) := by
    funext j
    rw [hsource, Function.update_apply]
  have hsinks : server'.sinkOf = server.sinkOf := by
    funext j
    simp [Server.sinkOf, Server.sinkInput, hinputs, hkin.sinks]
  simp [Server.places, Places.after, hsinks, hsources, hlinks]

theorem carried_of_carryOut (hfile : effect.onFile = false)
    (h : s.ticked.carryOut effect = some s') : Carried s effect s' := by
  cases effect with
  | moveSinkInput i sink =>
    obtain ⟨server', hmove, rfl⟩ := Option.map_eq_some_iff.mp h
    obtain ⟨hkin, hplaces, houtputs⟩ := places_moveSinkInput hmove
    exact ⟨hkin, hplaces, rfl, fun hmoves => (by cases hmoves), fun _ => houtputs, rfl, rfl⟩
  | moveSourceOutput i source =>
    obtain ⟨server', hmove, rfl⟩ := Option.map_eq_some_iff.mp h
    obtain ⟨hkin, hplaces, hinputs⟩ := places_moveSourceOutput hmove
    exact ⟨hkin, hplaces, rfl, fun _ => hinputs, fun hmoves => (by cases hmoves), rfl, rfl⟩
  | list what =>
    obtain rfl := Option.some.inj h
    exact ⟨.refl _, rfl, rfl, fun _ => rfl, fun _ => rfl, rfl, rfl⟩
  | link output input =>
    obtain rfl := Option.some.inj h
    refine ⟨⟨rfl, rfl, rfl, rfl, rfl⟩, ?_, rfl, fun _ => rfl, fun _ => rfl, rfl, rfl⟩
    simp only [Server.places, Places.after, Server.link, List.mem_cons]
    rfl
  | unlink output input =>
    obtain rfl := Option.some.inj h
    refine ⟨⟨rfl, rfl, rfl, rfl, rfl⟩, ?_, rfl, fun _ => rfl, fun _ => rfl, rfl, rfl⟩
    have hlinks : {link | link ∈ (s.server.unlink output input).links}
        = {link | link ∈ s.server.links} \ {(output, input)} := by
      ext link
      simp [Server.unlink]
    simp only [Server.places, Places.after]
    rw [← hlinks]
    rfl
  | saveJournal bytes => cases hfile
  | removeJournal => cases hfile

theorem carryOut_isSome_of_possible (h : effect.Possible s.server) :
    (s.ticked.carryOut effect).isSome := by
  cases effect with
  | moveSinkInput i sink =>
    simpa [Scene.carryOut, Scene.ticked] using Server.moveSinkInput_isSome h.1 h.2
  | moveSourceOutput i source =>
    simpa [Scene.carryOut, Scene.ticked] using Server.moveSourceOutput_isSome h.1 h.2
  | list what => rfl
  | link output input => rfl
  | unlink output input => rfl
  | saveJournal bytes => rfl
  | removeJournal => rfl

theorem possible_of_carryOut (h : (s.ticked.carryOut effect).isSome)
    (hidle : effect.idle s.server = false) : effect.Possible s.server := by
  cases effect with
  | moveSinkInput i sink =>
    have hmove : (s.server.moveSinkInput i sink).isSome := by
      simpa [Scene.carryOut, Scene.ticked] using h
    unfold Server.moveSinkInput at hmove
    split at hmove
    case h_1 stream node hstream hnode => exact ⟨by simp [hstream], by simp [hnode]⟩
    case h_2 => cases hmove
  | moveSourceOutput i source =>
    have hmove : (s.server.moveSourceOutput i source).isSome := by
      simpa [Scene.carryOut, Scene.ticked] using h
    unfold Server.moveSourceOutput at hmove
    split at hmove
    case h_1 stream node hstream hnode => exact ⟨by simp [hstream], by simp [hnode]⟩
    case h_2 => cases hmove
  | list what => trivial
  | link output input => simpa [Effect.idle, Effect.Possible] using hidle
  | unlink output input => simpa [Effect.idle, Effect.Possible] using hidle
  | saveJournal bytes => trivial
  | removeJournal => trivial

theorem idle_of_possible (h : effect.Possible s.server) : effect.idle s.server = false := by
  cases effect <;> simp_all [Effect.idle, Effect.Possible]

/-- A command succeeds exactly if it is not made to fail and there is something to do. -/
theorem command_wp {post : Call.Post Scene RoutingError Unit} (hties : host.Tries)
    (hfile : effect.onFile = false)
    (hok : ¬ (host.answer s.tick effect).fails → effect.Possible s.server →
      ∀ s', Carried s effect s' → post.ok () s')
    (herr : (host.answer s.tick effect).fails ∨ ¬ effect.Possible s.server →
      post.err (RoutingError.new code) s.ticked)
    (hcrash : host.answer s.tick effect = .crash → post.crash s) :
    (perform host effect code).wp post s := by
  have hcut : s.ticked.cutShort effect = s.ticked := by
    cases effect <;> first | rfl | cases hfile
  unfold Call.wp perform
  split
  case h_1 h => exact hcrash h
  case h_2 h => exact herr (.inl (.inl h))
  case h_3 h =>
    rw [hcut]
    exact herr (.inl (.inr h))
  case h_4 h =>
    have hidle : effect.idle s.server = false := by
      cases effect with
      | link output input => exact absurd h (hties s.tick output input).1
      | unlink output input => exact absurd h (hties s.tick output input).2
      | _ => rfl
    split
    case h_1 s' hs' =>
      exact hok (by simp [Answer.fails, h]) (possible_of_carryOut (by simp [hs']) hidle) s'
        (carried_of_carryOut hfile hs')
    case h_2 hs' =>
      refine herr (.inr fun hpossible => ?_)
      have hsome := carryOut_isSome_of_possible hpossible
      rw [hs'] at hsome
      cases hsome
  case h_5 h =>
    split
    case h_1 s' hs' =>
      have hcarry := carryOut_of_tryOut hs'
      have hidle : effect.idle s.server = false := by
        unfold Scene.tryOut at hs'
        split at hs'
        case isTrue => cases hs'
        case isFalse hidle => exact Bool.eq_false_iff.mpr hidle
      exact hok (by simp [Answer.fails, h]) (possible_of_carryOut (by simp [hcarry]) hidle) s'
        (carried_of_carryOut hfile hcarry)
    case h_2 hs' =>
      refine herr (.inr fun hpossible => ?_)
      have hsome := carryOut_isSome_of_possible hpossible
      have hidle : effect.idle s.ticked.server = false := idle_of_possible hpossible
      unfold Scene.tryOut at hs'
      rw [hidle, if_neg (by simp)] at hs'
      rw [hs'] at hsome
      cases hsome

/-! ### Along a call -/

/-- Since the call began the streams and devices have been the same; this is where they are now, and
    what the journal holds. -/
structure At (s₀ : Scene) (p : Places) (journal : Option JournalFile) (s : Scene) : Prop where
  kin : s₀.server.Kin s.server
  places : s.server.places = p
  journal : s.journal = journal
  active : s.watcher.activeRoute = s₀.watcher.activeRoute
  hasJournal : s.watcher.hasRouteJournal = s₀.watcher.hasRouteJournal

variable {s₀ : Scene} {p : Places} {journal : Option JournalFile}

theorem At.refl (s : Scene) : At s s.server.places s.journal s := ⟨.refl _, rfl, rfl, rfl, rfl⟩

theorem At.ticked (h : At s₀ p journal s) : At s₀ p journal s.ticked :=
  ⟨h.kin, h.places, h.journal, h.active, h.hasJournal⟩

theorem At.carried (h : At s₀ p journal s) (hs' : Carried s effect s') :
    At s₀ (p.after effect) journal s' := by
  refine ⟨h.kin.trans hs'.kin, ?_, ?_, ?_, ?_⟩
  · rw [hs'.places, h.places]
  · rw [hs'.journal, h.journal]
  · rw [hs'.watcher, h.active]
  · rw [hs'.watcher, h.hasJournal]

theorem At.remember (h : At s₀ p journal s) (f : PulseRoutingWatcher → PulseRoutingWatcher)
    (hactive : (f s.watcher).activeRoute = s.watcher.activeRoute)
    (hjournal : (f s.watcher).hasRouteJournal = s.watcher.hasRouteJournal) :
    At s₀ p journal (s.remember f) :=
  ⟨h.kin, h.places, h.journal, hactive.trans h.active, hjournal.trans h.hasJournal⟩

theorem At.possible_link (h : At s₀ p journal s) {output input : String} :
    (Effect.link output input).Possible s.server ↔ (output, input) ∉ p.links := by
  rw [← h.places]
  rfl

theorem At.possible_unlink (h : At s₀ p journal s) {output input : String} :
    (Effect.unlink output input).Possible s.server ↔ (output, input) ∈ p.links := by
  rw [← h.places]
  rfl

/-- A stream can be moved to where a stream was when the call began. -/
theorem At.possible_moveSinkInput (h : At s₀ p journal s) {i : Nat} {sink : String}
    (hsink : s₀.server.sinkOf i = some sink) : (Effect.moveSinkInput i sink).Possible s.server := by
  refine ⟨?_, ?_⟩
  · rw [h.kin.isSome]
    exact Server.sinkInput_isSome_of_sinkOf hsink
  · rw [h.kin.sinks]
    exact Server.nodeNamed_of_sinkOf hsink

theorem At.possible_moveSourceOutput (h : At s₀ p journal s) {i : Nat} {source : String}
    (hsource : s₀.server.sourceOf i = some source) :
    (Effect.moveSourceOutput i source).Possible s.server := by
  refine ⟨?_, ?_⟩
  · have hident := congrArg Option.isSome (h.kin.sourceOutput_ident i)
    simp only [Option.isSome_map] at hident
    rw [hident]
    exact Server.sourceOutput_isSome_of_sourceOf hsource
  · rw [h.kin.sources]
    exact Server.nodeNamed_of_sourceOf hsource

/-- A command that is tried along a call. -/
theorem At.command_wp {post : Call.Post Scene RoutingError Unit} (h : At s₀ p journal s)
    (hties : host.Tries) (hfile : effect.onFile = false)
    (hok : effect.Possible s.server → ∀ s', At s₀ (p.after effect) journal s' → post.ok () s')
    (herr : ∀ s', At s₀ p journal s' → post.err (RoutingError.new code) s')
    (hcrash : ∀ s', post.crash s') : (perform host effect code).wp post s :=
  Routing.command_wp hties hfile (fun _ hpossible s' hs' => hok hpossible s' (h.carried hs'))
    (fun _ => herr _ h.ticked) (fun _ => hcrash s)

end Translator.Routing
