import Montage.Proofs.Engine.Outcome

/-!
# Processes of requests

A request starts the engine at most once, over its staged inputs, and after it
no more than probes. It starts nothing just when its inputs cannot be staged or
its engine cannot be started, and then it fails (`execute_starts`).
-/

namespace Montage

/-- A process that was started to run a program with some arguments. -/
structure Launch.IsOf (launch : Launch) (host : Host) (program : String) (args : List String) :
    Prop where
  named : launch.program = program
  given : launch.args = args
  starts : host.start launch.disk program args = .ok launch.behaviour

/-- A process that was started to describe a file. -/
def Launch.IsProbe (launch : Launch) (host : Host) (ffprobe : String) : Prop :=
  ∃ path, launch.IsOf host ffprobe (probeArgs ++ [path])

/-- A later session in which only probes were started. -/
def Session.Probes (host : Host) (ffprobe : String) (before after : Session) : Prop :=
  ∃ started, after.launches = before.launches ++ started ∧
    ∀ launch ∈ started, launch.IsProbe host ffprobe

namespace Session

variable {host : Host} {program ffprobe : String} {args : List String} {before after : Session}

theorem Probes.refl (host : Host) (ffprobe : String) (session : Session) :
    session.Probes host ffprobe session := ⟨[], by simp, by simp⟩

/-- A run that starts notes the process. -/
theorem start_ok {behaviour : Behaviour}
    (started : before.start host program args = .ok (behaviour, after)) :
    host.start before.disk program args = .ok behaviour ∧
      after = before.launch ⟨program, args, behaviour, before.disk⟩ := by
  obtain ⟨found, starts, equal⟩ := map_ok_iff.mp started
  cases equal
  exact ⟨starts, rfl⟩

/-- Probing a file starts no more than a probe. -/
theorem Runs.probes {path : String} (runs : before.Runs host ffprobe (probeArgs ++ [path]) after) :
    before.Probes host ffprobe after := by
  cases runs with
  | unstarted => exact .refl host ffprobe before
  | cutShort started =>
      obtain ⟨starts, rfl⟩ := start_ok started
      refine ⟨[_], rfl, ?_⟩
      intro launch member
      obtain rfl := List.mem_singleton.mp member
      exact ⟨path, rfl, rfl, starts⟩
  | ended started =>
      obtain ⟨starts, rfl⟩ := start_ok started
      refine ⟨[_], rfl, ?_⟩
      intro launch member
      obtain rfl := List.mem_singleton.mp member
      exact ⟨path, rfl, rfl, starts⟩

end Session

/-- A program that starts is noted, however it ends. -/
theorem runUntil_launches {host : Host} {program : String} {args : List String}
    {deadline signal : Option Nat} {session : Session} {behaviour : Behaviour}
    (starts : host.start session.disk program args = .ok behaviour) :
    (runUntil host program args deadline signal session).2.launches =
      session.launches ++ [⟨program, args, behaviour, session.disk⟩] := by
  unfold runUntil Session.start
  rw [starts]
  simp only [Except.map]
  cases interruption? deadline signal behaviour <;> rfl

namespace Request

variable {host : Host} {config : EngineConfig} {program : Program} {path : String}

theorem describe_probes (host : Host) (config : EngineConfig) (program : Program) (path : String)
    (session : Session) :
    session.Probes host config.ffprobe (describe host config program path session).2 := by
  have probed := (probeFile_runs host config.ffprobe path session).probes
  unfold describe
  split
  · split
    · rename_i result
      rw [result] at probed
      exact probed
    · rename_i result
      rw [result] at probed
      exact probed
  · exact .refl host config.ffprobe session

theorem collect_probes (host : Host) (config : EngineConfig) (program : Program) (path : String)
    (session : Session) :
    session.Probes host config.ffprobe (collect host config program path session).2 := by
  have described := describe_probes host config program path
    (session.enter .extractingMetadata "Probing output")
  unfold collect
  dsimp only
  split
  · exact described
  · exact described

/-- A request whose inputs can be staged and whose engine then starts. -/
def CanStart (request : Request) (host : Host) (config : EngineConfig) (program : Program)
    (session : Session) : Prop :=
  ∃ staging inputs disk behaviour,
    StagedRequest.ComesFrom ⟨request, host, config, program, staging, inputs, disk⟩ session ∧
      StagedRequest.start ⟨request, host, config, program, staging, inputs, disk⟩ = .ok behaviour

/-- The processes that a request starts: none if it cannot start its engine, and
then it fails, or the engine over its staged inputs and after it no more than
probes, if the output is to be probed. -/
inductive Starts (request : Request) (host : Host) (config : EngineConfig) (program : Program)
    (session : Session) (result : Except Error Asset) : List Launch → Prop
  | nothing (fails : result.isOk = false)
      (unready : ¬request.CanStart host config program session) :
      Starts request host config program session result []
  | engine {staging : Staging} {inputs : List String} {disk : Disk} {behaviour : Behaviour}
      {probes : List Launch}
      (comes : StagedRequest.ComesFrom ⟨request, host, config, program, staging, inputs, disk⟩
        session)
      (starts : StagedRequest.start ⟨request, host, config, program, staging, inputs, disk⟩ =
        .ok behaviour)
      (others : ∀ launch ∈ probes, launch.IsProbe host config.ffprobe)
      (off : config.probeOutput = false → probes = []) :
      Starts request host config program session result
        (⟨config.ffmpeg,
          StagedRequest.args ⟨request, host, config, program, staging, inputs, disk⟩,
          behaviour, disk⟩ :: probes)

/-- Something is started just when the engine can be. -/
theorem Starts.ne_nil_iff {request : Request} {session : Session} {result : Except Error Asset}
    {started : List Launch} (starts : request.Starts host config program session result started) :
    started ≠ [] ↔ request.CanStart host config program session := by
  cases starts with
  | nothing fails unready => exact ⟨fun some => absurd rfl some, fun ready => absurd ready unready⟩
  | engine comes starts others off =>
      exact ⟨fun _ => ⟨_, _, _, _, comes, starts⟩, fun _ => List.cons_ne_nil _ _⟩

theorem collect_unprobed (off : config.probeOutput = false) (host : Host) (program : Program)
    (path : String) (session : Session) :
    (collect host config program path session).2.launches = session.launches := by
  unfold collect describe
  rw [off]
  simp only [Bool.false_eq_true, if_false]
  split <;> rfl

/-- The engine is started once, or the request fails. -/
theorem runEngine_launches (request : Request) (host : Host) (config : EngineConfig)
    (program : Program) (inputs : List String) (output : String) (session : Session) :
    let args := ({ program.command inputs output with logLevel := config.logLevel } :
      EngineCommand).args
    let outcome := request.runEngine host config program inputs output session
    (outcome.1.isOk = false ∧ outcome.2.launches = session.launches ∧
        ∃ fault, host.start session.disk config.ffmpeg args = .error fault) ∨
      ∃ behaviour probes, host.start session.disk config.ffmpeg args = .ok behaviour ∧
        outcome.2.launches =
          session.launches ++ ⟨config.ffmpeg, args, behaviour, session.disk⟩ :: probes ∧
        (∀ launch ∈ probes, launch.IsProbe host config.ffprobe) ∧
        (config.probeOutput = false → probes = []) := by
  intro args outcome
  let entered := session.enter .running "Running FFmpeg"
  cases starts : host.start session.disk config.ffmpeg args with
  | error fault =>
      left
      have spawned := @runUntil_spawn host config.ffmpeg args (some config.timeout)
        request.signal? entered fault starts
      show (runEngine request host config program inputs output session).1.isOk = false ∧
        (runEngine request host config program inputs output session).2.launches = _ ∧ _
      unfold runEngine
      dsimp only
      rw [show runUntil host config.ffmpeg _ _ _ _ = _ from spawned]
      exact ⟨rfl, rfl, fault, rfl⟩
  | ok behaviour =>
      right
      have noted := @runUntil_launches host config.ffmpeg args (some config.timeout)
        request.signal? entered behaviour starts
      have led : ∃ probes, outcome.2.launches =
          (session.launches ++ [⟨config.ffmpeg, args, behaviour, session.disk⟩]) ++ probes ∧
            (∀ launch ∈ probes, launch.IsProbe host config.ffprobe) ∧
            (config.probeOutput = false → probes = []) := by
        show ∃ probes, (runEngine request host config program inputs output session).2.launches =
          _ ++ probes ∧ _
        unfold runEngine
        dsimp only
        split
        · rename_i result
          rw [show runUntil host config.ffmpeg args _ _ _ = _ from result] at noted
          exact ⟨[], by rw [List.append_nil]; exact noted, by simp, fun _ => rfl⟩
        · rename_i next result
          rw [show runUntil host config.ffmpeg args _ _ _ = _ from result] at noted
          obtain ⟨probes, launches, each⟩ := collect_probes host config program output next
          refine ⟨probes, by rw [launches, noted]; rfl, each, fun off => ?_⟩
          have unprobed := collect_unprobed off host program output next
          rw [launches] at unprobed
          exact List.append_right_eq_self.mp unprobed
      obtain ⟨probes, launches, each, off⟩ := led
      exact ⟨behaviour, probes, rfl, by rw [launches, List.append_assoc]; rfl, each, off⟩

/-- A request starts nothing, or the engine once. -/
theorem execute_starts (request : Request) (host : Host) (config : EngineConfig)
    (program : Program) (session : Session) :
    ∃ started, (request.execute host config program session).2.launches =
        session.launches ++ started ∧
      request.Starts host config program session
        (request.execute host config program session).1 started := by
  have noted : ∀ outcome : Except Error Asset × Session,
      (conclude outcome).2.launches = outcome.2.launches := by
    rintro ⟨_ | _, _⟩ <;> rfl
  -- inputs are staged in one way only
  unfold execute
  dsimp only
  split
  · rename_i refused
    rw [noted]
    refine ⟨[], (List.append_nil _).symm, .nothing rfl ?_⟩
    rintro ⟨_, _, _, _, ⟨_, created, -⟩, -⟩
    cases refused.symm.trans created
  · rename_i staging opened created
    rw [noted, conclude_result]
    unfold runStaged
    dsimp only
    split
    · rename_i failed
      refine ⟨[], (List.append_nil _).symm, .nothing rfl ?_⟩
      rintro ⟨_, _, _, _, ⟨_, created', staged⟩, -⟩
      cases created.symm.trans created'
      cases failed.symm.trans staged
    · rename_i inputs disk staged
      rcases request.runEngine_launches host config program inputs
        (staging.outputPath program.format) _ with
        ⟨fails, launches, fault, unstarted⟩ | ⟨behaviour, probes, starts, launches, each, off⟩
      · refine ⟨[], by rw [List.append_nil]; exact launches, .nothing fails ?_⟩
        rintro ⟨_, _, _, _, ⟨_, created', staged'⟩, started⟩
        cases created.symm.trans created'
        cases staged.symm.trans staged'
        cases unstarted.symm.trans started
      · exact ⟨_, launches, .engine ⟨opened, created, staged⟩ starts each off⟩

end Request

end Montage
