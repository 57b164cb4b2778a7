import Subtitling.Batch.Run
import Subtitling.Config.Basic
import Subtitling.Service.Client

/-!
A batch as the configuration has it worked on. A batch that goes through a queue is waited for, and
then every unit that failed is told of, in the order in which the units ended.
-/

namespace Subtitling.Config

def client (c : Config) : Service.Client where
  baseUrl := Service.trimBase c.service.url
  timeouts := ⟨.ofSeconds c.service.submitTimeout, .ofSeconds c.service.pollTimeout,
    .ofSeconds c.service.syncTimeout, .ofSeconds c.service.statusTimeout⟩
  interval := .ofSeconds c.service.pollInterval
  maxWait := .ofSeconds c.service.maxWait
  retry := ⟨c.service.retryAttempts, .ofMilliseconds c.service.retryBackoffMilliseconds, 2,
    .ofMilliseconds c.service.retryJitterMilliseconds⟩

def setup (c : Config) : Batch.Setup :=
  ⟨⟨c.mappings, Language.Detector.standard⟩, c.service.settings⟩

end Subtitling.Config

namespace Subtitling.App

open Work (World Surroundings Outcome)

def failureText? (o : Outcome) : Option String :=
  match o.result with
  | .ok _ => none
  | .error reason => some (o.name ++ ": " ++ reason)

def tellFailures (outcomes : List Outcome) (w : World) : World :=
  (outcomes.filterMap failureText?).foldl World.message w

def runBatch (c : Config) (around : Surroundings) (items : List Json) (w : World) :
    Batch.Result × World :=
  match c.batch.dispatch with
  | .inline => Batch.runInline c.setup around items w
  | .queue =>
    let (result, queue, w) := Batch.runQueued c.setup around c.batch.workers items w
    (result, tellFailures queue.outcomes w)

end Subtitling.App
