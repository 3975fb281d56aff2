import Translator.Stream.Agreement
import Translator.Wire.Accepts

/-! Owed finals across whole runs of the coordinator. After an overflow or no-speech error the
    validator takes nothing but the dropped final of the utterance named, so the stream depends on
    that final being acceptable. `Derails` names the steps after which it is not: the error comes when
    the watchdog would refuse the final, a cancelled final retires the utterance first or fills the
    terminal table, the watchdog closes the session, or the event sequence runs out. -/

namespace Translator.Stream
open Schemes Wire
namespace ProviderStreamCoordinator

/-- The provider can still pay for `u`: with a dropped final, or a cancelled one. -/
def Payable (c : ProviderStreamCoordinator) (u : Uuid) : Prop :=
  c.watchdog.sessionPhase = .active
    ∧ c.validator.terminalUtterances.card < maxTerminalUtterances
    ∧ ∃ x, c.watchdog.utterances.lookup u = some x
      ∧ x.streamId = c.validator.contract.streamId
      ∧ (x.phase.awaitsProvider = true ∨ x.phase.isCancelPending = true)

/-- What keeps the stream going. -/
structure Steady (c : ProviderStreamCoordinator) : Prop where
  debts : c.validator.Debts
  payable : c.validator.closed = false → ∀ u, c.validator.Owes u → Payable c u
  sequence : c.validator.closed = false → ∀ n, c.validator.lastEventSequence = some n →
    n.toNat + 1 < 2 ^ 64
  unopened : c.validator.opened = false → c.validator.closed = false ∧ c.validator.Unobliged
    ∧ c.watchdog.sessionPhase = .active ∧ ∀ u, u ∉ c.watchdog.utterances

variable {c c' : ProviderStreamCoordinator} {op : Op} {r : Result} {s u : Uuid} {now : Nat}
  {v : ProviderEventValidator} {event : Event}

end ProviderStreamCoordinator

end Translator.Stream
