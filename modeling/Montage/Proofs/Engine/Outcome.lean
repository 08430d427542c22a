import Montage.Proofs.Engine.Progress

/-!
# Outcomes of requests

Once its inputs are staged, the engine alone decides what comes of a request:
whether it starts, ends in time and ends well, and what it leaves at the output
path (`Decides`). A probe that only reports has a say in the description of the
output and in nothing else (`decides_result`). What a failed engine had to say is
lost if something keeps its diagnostic output open for long
(`lingering_stderr_lost`).
-/

namespace Montage

/-! ## Running to the end -/

theorem Ending.isSuccess_iff {ending : Ending} : ending.isSuccess = true ↔ ending = .exited 0 := by
  cases ending <;> simp [isSuccess]

/-- A process that ends by itself: before its deadline, and before any signal
to cancel it. -/
structure Behaviour.EndsInTime (behaviour : Behaviour) (deadline : Nat) (signal : Option Nat) :
    Prop where
  deadline : behaviour.duration < deadline
  signal : ∀ moment ∈ signal, behaviour.duration < moment

/-- A process whose diagnostic output is closed while it is still waited for. The
wait begins when that for the other output is over. -/
def Behaviour.ClosesInTime (behaviour : Behaviour) : Prop :=
  behaviour.stderrHeld ≤ min behaviour.stdoutHeld captureGrace + captureGrace

section

variable {behaviour : Behaviour} {limit moment : Nat} {signal : Option Nat}

theorem reached?_eq_none {moment : Option Nat} :
    reached? moment behaviour = none ↔ ∀ time ∈ moment, behaviour.duration < time := by
  simp [reached?, Option.filter_eq_none_iff]

theorem reached?_of_le (late : moment ≤ behaviour.duration) :
    reached? (some moment) behaviour = some moment := by
  simp [reached?, late]

theorem interruption?_eq_none :
    interruption? (some limit) signal behaviour = none ↔ behaviour.EndsInTime limit signal := by
  constructor
  · intro whole
    unfold interruption? at whole
    split at whole
    · rename_i inTime uncancelled
      exact ⟨reached?_eq_none.mp inTime limit rfl, reached?_eq_none.mp uncancelled⟩
    · cases whole
    · cases whole
    · split at whole <;> cases whole
  · rintro ⟨inTime, uncancelled⟩
    have deadline : reached? (some limit) behaviour = none :=
      reached?_eq_none.mpr fun time member => Option.mem_some.mp member ▸ inTime
    unfold interruption?
    rw [deadline, reached?_eq_none.mpr uncancelled]

/-- A deadline that comes before any signal. -/
theorem interruption?_timeout (late : limit ≤ behaviour.duration)
    (before : ∀ moment ∈ signal, limit < moment) :
    interruption? (some limit) signal behaviour = some (.timeout limit) := by
  unfold interruption?
  rw [reached?_of_le late]
  cases signal with
  | none => rfl
  | some moment =>
      have later := before moment rfl
      by_cases come : moment ≤ behaviour.duration
      · rw [reached?_of_le come]
        simp only [Nat.not_le.mpr later, if_false]
      · rw [reached?_eq_none.mpr fun time member => Option.mem_some.mp member ▸ Nat.not_le.mp come]

/-- A signal that comes no later than the deadline. -/
theorem interruption?_cancelled (come : moment ≤ behaviour.duration) (before : moment ≤ limit) :
    interruption? (some limit) (some moment) behaviour = some .cancelled := by
  unfold interruption?
  rw [reached?_of_le come]
  by_cases late : limit ≤ behaviour.duration
  · rw [reached?_of_le late]
    simp only [before, if_true]
  · rw [reached?_eq_none.mpr fun time member => Option.mem_some.mp member ▸ Nat.not_le.mp late]

end

section

variable {host : Host} {program : String} {args : List String} {deadline signal : Option Nat}
  {session : Session} {behaviour : Behaviour}

theorem runUntil_spawn {fault : FileFault}
    (fails : host.start session.disk program args = .error fault) :
    runUntil host program args deadline signal session =
      (.error (.spawn program fault.message), session) := by
  unfold runUntil Session.start
  rw [fails]
  rfl

variable (starts : host.start session.disk program args = .ok behaviour)
include starts

theorem runUntil_interrupted {error : Error}
    (short : interruption? deadline signal behaviour = some error) :
    (runUntil host program args deadline signal session).1 = .error error := by
  unfold runUntil Session.start
  rw [starts]
  simp only [Except.map, short]

theorem runUntil_ended (whole : interruption? deadline signal behaviour = none) :
    ∃ after, runUntil host program args deadline signal session =
        (behaviour.outcome program, after) ∧
      after.disk = behaviour.applyTo host.directory args session.disk := by
  unfold runUntil Session.start
  rw [starts]
  simp only [Except.map, whole]
  exact ⟨_, rfl, rfl⟩

end

namespace Behaviour

variable {behaviour : Behaviour}

theorem capturedStderr_of_closesInTime (closes : behaviour.ClosesInTime) :
    behaviour.capturedStderr = behaviour.stderr := if_pos closes

theorem capturedStderr_of_not_closesInTime (lingers : ¬behaviour.ClosesInTime) :
    behaviour.capturedStderr = [] := if_neg lingers

theorem outcome_unwaited {message : String} (lost : behaviour.unwaited = some message)
    (program : String) : behaviour.outcome program = .error (.io message) := by
  unfold outcome
  rw [lost]

variable (waited : behaviour.unwaited = none)
include waited

theorem outcome_failed (bad : behaviour.ending ≠ .exited 0) (program : String) :
    behaviour.outcome program =
      .error (.engine (program ++ " exited with " ++ behaviour.ending.text)
        (Text.Utf8.decodeLossy behaviour.capturedStderr) behaviour.ending.exitCode none) := by
  have unsuccessful : behaviour.ending.isSuccess = false :=
    Bool.eq_false_iff.mpr fun well => bad (Ending.isSuccess_iff.mp well)
  unfold outcome
  rw [waited]
  simp only [unsuccessful, Bool.false_eq_true, if_false]

theorem outcome_ok (well : behaviour.ending = .exited 0) (program : String) :
    ∃ output, behaviour.outcome program = .ok output := by
  unfold outcome
  rw [waited]
  simp only [Ending.isSuccess_iff.mpr well, if_true]
  exact ⟨_, rfl⟩

end Behaviour

/-! ## Probes -/

/-- A probe, if there is to be one, writes no file. The file that its last
argument names is the output itself. -/
def ProbeOnlyReports (host : Host) (config : EngineConfig) : Prop :=
  config.probeOutput = true → ∀ disk path behaviour,
    host.start disk config.ffprobe (probeArgs ++ [path]) = .ok behaviour → behaviour.output = none

/-- What a probe says of a file on a disk, if it is asked and gives a
description. -/
def probed? (host : Host) (config : EngineConfig) (path : String) (disk : Disk) :
    Option AssetMetadata :=
  if config.probeOutput then (probeFile host config.ffprobe path { disk }).1.toOption else none

section

variable {host : Host} {config : EngineConfig} {path : String}

/-- A probe finds nothing but the disk. -/
theorem probeFile_result (ffprobe : String) (session : Session) :
    (probeFile host ffprobe path session).1 =
      (probeFile host ffprobe path { disk := session.disk }).1 := by
  unfold probeFile Session.start
  dsimp only
  split
  · rfl
  · cases host.start session.disk ffprobe (probeArgs ++ [path]) with
    | error fault => rfl
    | ok behaviour =>
        simp only [Except.map]
        split <;> rfl

namespace Request

/-- The description of an output comes from the probe or else from the
program. -/
theorem describe_result (host : Host) (config : EngineConfig) (path : String)
    (program : Program) (session : Session) :
    (describe host config program path session).1 =
      (probed? host config path session.disk).getD (unprobed program) := by
  unfold describe probed?
  rw [← probeFile_result]
  split
  · obtain ⟨result, after⟩ := probeFile host config.ffprobe path session
    cases result <;> rfl
  · rfl

theorem describe_disk (path : String) (reports : ProbeOnlyReports host config)
    (program : Program) (session : Session) :
    (describe host config program path session).2.disk = session.disk := by
  unfold describe
  split
  · rename_i asked
    have kept := (probeFile_runs host config.ffprobe path session).disk_eq
      (reports asked session.disk path)
    split
    · rename_i result
      rw [result] at kept
      exact kept
    · rename_i result
      rw [result] at kept
      exact kept
  · rfl

/-- The output is what stands at the output path, and only its description
comes from the probe. -/
theorem collect_result (reports : ProbeOnlyReports host config) (program : Program)
    (session : Session) :
    (collect host config program path session).1 =
      match session.disk.read host.directory path with
      | .error fault => .error (.io fault.message)
      | .ok bytes => .ok {
          bytes
          kind := program.outputKind
          metadata := { (probed? host config path session.disk).getD (unprobed program) with
            format := some program.format } } := by
  have same := describe_disk path reports program
    (session.enter .extractingMetadata "Probing output")
  have metadata := describe_result host config path program
    (session.enter .extractingMetadata "Probing output")
  unfold collect
  dsimp only
  rw [same, metadata]
  show Prod.fst (match session.disk.read host.directory path with
    | .error fault => _
    | .ok bytes => _) = _
  cases session.disk.read host.directory path <;> rfl

/-- The probe of the bench writes nothing. -/
theorem output_of_bench_probe {disk : Disk} {args : List String} {behaviour : Behaviour}
    (starts : bench.start disk "/bin/ffprobe" args = .ok behaviour) : behaviour.output = none := by
  unfold Host.start at starts
  split at starts
  · cases starts
  · obtain ⟨program, found, rfl⟩ := map_ok_iff.mp starts
    obtain ⟨place, located, rest⟩ := bind_ok_iff.mp found
    obtain ⟨rfl, -⟩ := Disk.locate_ok located
    have there : bench.programs.lookup (Disk.placeOf bench.directory "/bin/ffprobe") =
        some fun _ => {} := rfl
    rw [there] at rest
    split at rest
    · cases rest
    · cases rest
    · cases rest
    · cases rest
      rfl

end Request

end

/-! ## Staged requests -/

/-- A request whose inputs are staged, before its engine starts. -/
structure StagedRequest where
  request : Request
  host : Host
  config : EngineConfig
  program : Program
  staging : Staging
  /-- the paths of the inputs -/
  inputs : List String
  /-- what the engine finds -/
  disk : Disk

/-- Staging depends on a host by its working directory only. -/
theorem Staging.stageFrom_congr (staging : Staging) {host other : Host}
    (same : other.directory = host.directory) (index : Nat) (assets : List Asset) (disk : Disk) :
    staging.stageFrom other index assets disk = staging.stageFrom host index assets disk := by
  induction assets generalizing index disk with
  | nil => simp only [stageFrom]
  | cons asset rest ih =>
      have first : staging.stage other index asset disk = staging.stage host index asset disk := by
        unfold stage
        rw [same]
      simp only [stageFrom, first, ih]

/-- What remains of an asset without all that only a probe can tell. -/
def Asset.unprobed (asset : Asset) : Asset :=
  { asset with metadata := { format := asset.metadata.format } }

namespace StagedRequest

variable (staged : StagedRequest) (session : Session) (behaviour : Behaviour)

/-- Where the engine writes its output. -/
def output : String := staged.staging.outputPath staged.program.format

/-- The arguments of the engine. -/
def args : List String :=
  { staged.program.command staged.inputs staged.output with
    logLevel := staged.config.logLevel : EngineCommand }.args

/-- What the engine is going to do, if it starts. -/
def start : Except FileFault Behaviour :=
  staged.host.start staged.disk staged.config.ffmpeg staged.args

/-- The disk after the engine has run to its end. -/
def after : Disk := behaviour.applyTo staged.host.directory staged.args staged.disk

/-- The file at the output path after the engine has run to its end. -/
def left : Except FileFault Bytes :=
  (staged.after behaviour).read staged.host.directory staged.output

/-- What the probe says of the output. -/
def probed : Option AssetMetadata :=
  probed? staged.host staged.config staged.output (staged.after behaviour)

/-- The output with some content. -/
def asset (bytes : Bytes) : Asset where
  bytes
  kind := staged.program.outputKind
  metadata := { (staged.probed behaviour).getD (Request.unprobed staged.program) with
    format := some staged.program.format }

/-- Whether the engine ends by itself. -/
def EndsInTime : Prop := behaviour.EndsInTime staged.config.timeout staged.request.signal?

/-- A session in which the inputs of a request come to be staged like this. -/
def ComesFrom : Prop :=
  ∃ opened, Staging.create staged.host staged.config.workDirectory staged.request.id
      staged.request.suffix session.disk = (.ok staged.staging, opened) ∧
    staged.staging.stageAll staged.host staged.program.inputs opened =
      (.ok staged.inputs, staged.disk)

/-- What comes of the request. -/
def result : Except Error Asset :=
  (staged.request.execute staged.host staged.config staged.program session).1

/-- The engine alone decides what comes of a request. -/
structure Decides (result : Except Error Asset) : Prop where
  ok_iff : (∃ asset, result = .ok asset) ↔ ∃ behaviour bytes, staged.start = .ok behaviour ∧
    staged.EndsInTime behaviour ∧ behaviour.unwaited = none ∧ behaviour.ending = .exited 0 ∧
      staged.left behaviour = .ok bytes
  asset : ∀ asset behaviour, result = .ok asset → staged.start = .ok behaviour →
    staged.left behaviour = .ok asset.bytes ∧ asset.kind = staged.program.outputKind ∧
      asset.metadata.format = some staged.program.format
  /-- what the probe says, but for the format -/
  probed : ∀ asset behaviour metadata, result = .ok asset → staged.start = .ok behaviour →
    staged.probed behaviour = some metadata →
      asset.metadata = { metadata with format := some staged.program.format }
  unprobed : ∀ asset behaviour, result = .ok asset → staged.start = .ok behaviour →
    staged.probed behaviour = none → asset.metadata =
      { hasAudio := some staged.program.final.audio.isSome
        format := some staged.program.format }
  spawn : ∀ fault, staged.start = .error fault →
    result = .error (.spawn staged.config.ffmpeg fault.message)
  timeout : ∀ behaviour, staged.start = .ok behaviour →
    staged.config.timeout ≤ behaviour.duration →
      (∀ moment ∈ staged.request.signal?, staged.config.timeout < moment) →
        result = .error (.timeout staged.config.timeout)
  cancelled : ∀ behaviour, staged.start = .ok behaviour →
    ∀ moment ∈ staged.request.signal?, moment ≤ behaviour.duration →
      moment ≤ staged.config.timeout → result = .error .cancelled
  /-- with what the engine wrote to its diagnostic output, unless that stays open -/
  engine : ∀ behaviour, staged.start = .ok behaviour → staged.EndsInTime behaviour →
    behaviour.unwaited = none → behaviour.ending ≠ .exited 0 →
      ∃ stderr, result = .error (.engine
          (staged.config.ffmpeg ++ " exited with " ++ behaviour.ending.text) stderr
          behaviour.ending.exitCode (some staged.program.graphText)) ∧
        (behaviour.ClosesInTime → stderr = Text.Utf8.decodeLossy behaviour.stderr) ∧
        (¬behaviour.ClosesInTime → stderr = "")
  io : ∀ behaviour fault, staged.start = .ok behaviour → staged.EndsInTime behaviour →
    behaviour.unwaited = none → behaviour.ending = .exited 0 →
      staged.left behaviour = .error fault → result = .error (.io fault.message)
  /-- it is not known how the engine ended -/
  unwaited : ∀ behaviour message, staged.start = .ok behaviour → staged.EndsInTime behaviour →
    behaviour.unwaited = some message → result = .error (.io message)

variable {staged session behaviour}

/-- The engine starts in any session whose disk holds the staged inputs. -/
theorem start_ready {ready : Session} (same : ready.disk = staged.disk)
    (starts : staged.start = .ok behaviour) :
    staged.host.start ready.disk staged.config.ffmpeg staged.args = .ok behaviour := by
  rw [same]
  exact starts

/-- A request with staged inputs comes to what its engine runs to. -/
theorem result_eq (comes : staged.ComesFrom session) :
    ∃ ready : Session, ready.disk = staged.disk ∧ staged.result session =
      match runUntil staged.host staged.config.ffmpeg staged.args (some staged.config.timeout)
          staged.request.signal? ready with
      | (.error error, _) => .error (error.withFilterGraph staged.program.graphText)
      | (.ok _, after) =>
        (Request.collect staged.host staged.config staged.program staged.output after).1 := by
  have engine : ∀ ready : Session, (staged.request.runEngine staged.host staged.config
      staged.program staged.inputs staged.output ready).1 =
        match runUntil staged.host staged.config.ffmpeg staged.args (some staged.config.timeout)
            staged.request.signal? (ready.enter .running "Running FFmpeg") with
        | (.error error, _) => .error (error.withFilterGraph staged.program.graphText)
        | (.ok _, after) =>
          (Request.collect staged.host staged.config staged.program staged.output after).1 := by
    intro ready
    show (match runUntil staged.host staged.config.ffmpeg staged.args _ _ _ with
      | (.error error, after) => (_, after)
      | (.ok _, after) => Request.collect _ _ _ _ after).1 = _
    split <;> rfl
  obtain ⟨opened, created, inputs⟩ := comes
  unfold result Request.execute
  dsimp only
  rw [show (session.enter .idle _).disk = session.disk from rfl, created]
  simp only [Request.conclude_result]
  unfold Request.runStaged
  dsimp only
  rw [show (Session.enter _ .stagingInputs _).disk = opened from rfl, inputs]
  exact ⟨_, rfl, engine _⟩

/-- A run that fails is what comes of the request. -/
theorem result_error {error : Error} (comes : staged.ComesFrom session)
    (fails : ∀ ready : Session, ready.disk = staged.disk →
      (runUntil staged.host staged.config.ffmpeg staged.args (some staged.config.timeout)
        staged.request.signal? ready).1 = .error error) :
    staged.result session = .error (error.withFilterGraph staged.program.graphText) := by
  obtain ⟨ready, same, equal⟩ := result_eq comes
  have failed := fails ready same
  rw [equal]
  generalize runUntil staged.host staged.config.ffmpeg staged.args _ _ ready = run at failed
  obtain ⟨outcome, after⟩ := run
  obtain rfl : outcome = .error error := failed
  rfl

/-- After a run that ends well the request comes to what the engine has left. -/
theorem result_left (comes : staged.ComesFrom session)
    (reports : ProbeOnlyReports staged.host staged.config)
    (starts : staged.start = .ok behaviour) (ends : staged.EndsInTime behaviour)
    (waited : behaviour.unwaited = none) (well : behaviour.ending = .exited 0) :
    staged.result session =
      match staged.left behaviour with
      | .error fault => .error (.io fault.message)
      | .ok bytes => .ok (staged.asset behaviour bytes) := by
  obtain ⟨ready, same, equal⟩ := result_eq comes
  obtain ⟨after, run, disk⟩ :=
    runUntil_ended (start_ready same starts) (interruption?_eq_none.mpr ends)
  obtain ⟨output, succeeds⟩ := Behaviour.outcome_ok waited well staged.config.ffmpeg
  rw [equal, run, succeeds]
  dsimp only
  rw [Request.collect_result reports, disk, same]
  rfl

/-- If the engine does not start, that is what comes of the request. -/
theorem result_spawn {fault : FileFault} (comes : staged.ComesFrom session)
    (fails : staged.start = .error fault) :
    staged.result session = .error (.spawn staged.config.ffmpeg fault.message) := by
  have spawned : staged.result session =
      .error ((Error.spawn staged.config.ffmpeg fault.message).withFilterGraph
        staged.program.graphText) :=
    result_error comes fun ready same => by rw [runUntil_spawn (by rw [same]; exact fails)]
  exact spawned

/-- If the engine does not end by itself, what cuts it short is what comes of
the request. -/
theorem result_interrupted {error : Error} (comes : staged.ComesFrom session)
    (starts : staged.start = .ok behaviour)
    (short : interruption? (some staged.config.timeout) staged.request.signal? behaviour =
      some error) :
    staged.result session = .error (error.withFilterGraph staged.program.graphText) :=
  result_error comes fun _ same => runUntil_interrupted (start_ready same starts) short

/-- If the engine ends by itself and something is wrong with that, it is what comes
of the request. -/
theorem result_ended {error : Error} (comes : staged.ComesFrom session)
    (starts : staged.start = .ok behaviour) (ends : staged.EndsInTime behaviour)
    (fails : behaviour.outcome staged.config.ffmpeg = .error error) :
    staged.result session = .error (error.withFilterGraph staged.program.graphText) := by
  refine result_error comes fun ready same => ?_
  obtain ⟨after, run, -⟩ :=
    runUntil_ended (start_ready same starts) (interruption?_eq_none.mpr ends)
  rw [run, fails]

/-- If nobody can learn how the engine ended, that is what comes of the request. -/
theorem result_unwaited {message : String} (comes : staged.ComesFrom session)
    (starts : staged.start = .ok behaviour) (ends : staged.EndsInTime behaviour)
    (lost : behaviour.unwaited = some message) :
    staged.result session = .error (.io message) :=
  result_ended comes starts ends (Behaviour.outcome_unwaited lost _)

/-- If the engine ends badly, its error with the graph is what comes of the
request. -/
theorem result_failed (comes : staged.ComesFrom session) (starts : staged.start = .ok behaviour)
    (ends : staged.EndsInTime behaviour) (waited : behaviour.unwaited = none)
    (bad : behaviour.ending ≠ .exited 0) :
    staged.result session = .error (.engine
      (staged.config.ffmpeg ++ " exited with " ++ behaviour.ending.text)
      (Text.Utf8.decodeLossy behaviour.capturedStderr) behaviour.ending.exitCode
      (some staged.program.graphText)) :=
  result_ended comes starts ends (Behaviour.outcome_failed waited bad _)

/-- What becomes of the engine of a request: it cannot be started, it is cut
short, it ends by itself and something is wrong with that, or it ends well. -/
inductive Course (staged : StagedRequest) : Prop
  | unstarted {fault : FileFault} (fails : staged.start = .error fault)
  | cutShort {behaviour : Behaviour} {error : Error} (starts : staged.start = .ok behaviour)
      (short : interruption? (some staged.config.timeout) staged.request.signal? behaviour =
        some error)
  | failed {behaviour : Behaviour} {error : Error} (starts : staged.start = .ok behaviour)
      (ends : staged.EndsInTime behaviour)
      (fails : behaviour.outcome staged.config.ffmpeg = .error error)
  | succeeded {behaviour : Behaviour} (starts : staged.start = .ok behaviour)
      (ends : staged.EndsInTime behaviour) (waited : behaviour.unwaited = none)
      (well : behaviour.ending = .exited 0)

theorem course (staged : StagedRequest) : staged.Course := by
  cases starts : staged.start with
  | error fault => exact .unstarted starts
  | ok behaviour =>
      cases short : interruption? (some staged.config.timeout) staged.request.signal? behaviour with
      | some error => exact .cutShort starts short
      | none =>
          have ends : staged.EndsInTime behaviour := interruption?_eq_none.mp short
          cases waited : behaviour.unwaited with
          | some message => exact .failed starts ends (Behaviour.outcome_unwaited waited _)
          | none =>
              by_cases well : behaviour.ending = .exited 0
              · exact .succeeded starts ends waited well
              · exact .failed starts ends (Behaviour.outcome_failed waited well _)

/-- A request with a result had an engine that started, ended well and in time,
and left the output. -/
theorem left_of_result {asset : Asset} (comes : staged.ComesFrom session)
    (reports : ProbeOnlyReports staged.host staged.config)
    (succeeds : staged.result session = .ok asset) :
    ∃ behaviour bytes, staged.start = .ok behaviour ∧ staged.EndsInTime behaviour ∧
      behaviour.unwaited = none ∧ behaviour.ending = .exited 0 ∧
        staged.left behaviour = .ok bytes ∧ asset = staged.asset behaviour bytes := by
  cases staged.course with
  | unstarted fails =>
      rw [result_spawn comes fails] at succeeds
      cases succeeds
  | cutShort starts short =>
      rw [result_interrupted comes starts short] at succeeds
      cases succeeds
  | failed starts ends fails =>
      rw [result_ended comes starts ends fails] at succeeds
      cases succeeds
  | @succeeded behaviour starts ends waited well =>
      rw [result_left comes reports starts ends waited well] at succeeds
      cases left : staged.left behaviour with
      | error fault =>
          rw [left] at succeeds
          cases succeeds
      | ok bytes =>
          rw [left] at succeeds
          exact ⟨behaviour, bytes, starts, ends, waited, well, left,
            (Except.ok.inj succeeds).symm⟩

/-- The engine alone decides what comes of a request with staged inputs. -/
theorem decides (comes : staged.ComesFrom session)
    (reports : ProbeOnlyReports staged.host staged.config) :
    staged.Decides (staged.result session) := by
  -- the engine that started is the one that left the output
  have produced : ∀ asset behaviour, staged.result session = .ok asset →
      staged.start = .ok behaviour → ∃ bytes, staged.left behaviour = .ok bytes ∧
        asset = staged.asset behaviour bytes := by
    intro asset behaviour succeeds starts
    obtain ⟨other, bytes, started, -, -, -, left, equal⟩ := left_of_result comes reports succeeds
    obtain rfl : other = behaviour := Except.ok.inj (started.symm.trans starts)
    exact ⟨bytes, left, equal⟩
  refine ⟨⟨?_, ?_⟩, ?_, ?_, ?_, fun _ => result_spawn comes, ?_, ?_, ?_, ?_,
    fun _ _ => result_unwaited comes⟩
  · rintro ⟨asset, succeeds⟩
    obtain ⟨behaviour, bytes, starts, ends, waited, well, left, -⟩ :=
      left_of_result comes reports succeeds
    exact ⟨behaviour, bytes, starts, ends, waited, well, left⟩
  · rintro ⟨behaviour, bytes, starts, ends, waited, well, left⟩
    rw [result_left comes reports starts ends waited well, left]
    exact ⟨_, rfl⟩
  · intro asset behaviour succeeds starts
    obtain ⟨bytes, left, rfl⟩ := produced asset behaviour succeeds starts
    exact ⟨left, rfl, rfl⟩
  · intro asset behaviour metadata succeeds starts said
    obtain ⟨bytes, left, rfl⟩ := produced asset behaviour succeeds starts
    simp only [StagedRequest.asset, said, Option.getD_some]
  · intro asset behaviour succeeds starts silent
    obtain ⟨bytes, left, rfl⟩ := produced asset behaviour succeeds starts
    simp only [StagedRequest.asset, silent, Option.getD_none, Request.unprobed]
  · intro behaviour starts late before
    exact result_interrupted comes starts (interruption?_timeout late before)
  · intro behaviour starts moment signalled come before
    have short : interruption? (some staged.config.timeout) staged.request.signal? behaviour =
        some .cancelled := by
      rw [Option.mem_def.mp signalled]
      exact interruption?_cancelled come before
    exact result_interrupted comes starts short
  · intro behaviour starts ends waited bad
    refine ⟨_, result_failed comes starts ends waited bad, fun closes => ?_, fun lingers => ?_⟩
    · rw [Behaviour.capturedStderr_of_closesInTime closes]
    · rw [Behaviour.capturedStderr_of_not_closesInTime lingers]
      rfl
  · intro behaviour fault starts ends waited well absent
    rw [result_left comes reports starts ends waited well, absent]

/-! ## Other probes -/

/-- Another host on which the engine of a request does the same. -/
structure SameEngine (staged : StagedRequest) (host : Host) : Prop where
  directory : host.directory = staged.host.directory
  start : host.start staged.disk staged.config.ffmpeg staged.args = staged.start

/-- A staged request with another probe, or none. -/
def withProbe (staged : StagedRequest) (host : Host) (ffprobe : String) (probeOutput : Bool) :
    StagedRequest :=
  { staged with host, config := { staged.config with ffprobe, probeOutput } }

variable {host : Host} {ffprobe : String} {probeOutput : Bool}

theorem ComesFrom.withProbe (ffprobe : String) (probeOutput : Bool)
    (comes : staged.ComesFrom session) (same : host.directory = staged.host.directory) :
    (staged.withProbe host ffprobe probeOutput).ComesFrom session := by
  obtain ⟨opened, created, inputs⟩ := comes
  refine ⟨opened, ?_, ?_⟩
  · show Staging.create host staged.config.workDirectory staged.request.id staged.request.suffix
      session.disk = (.ok staged.staging, opened)
    rw [← created]
    unfold Staging.create Staging.absolutePath
    rw [same]
  · exact (staged.staging.stageFrom_congr same 0 _ opened).trans inputs

/-- Another probe that only reports changes no more than the description. -/
theorem result_withProbe (comes : staged.ComesFrom session)
    (reports : ProbeOnlyReports staged.host staged.config) (same : staged.SameEngine host)
    (others : ProbeOnlyReports host { staged.config with ffprobe, probeOutput }) :
    ((staged.withProbe host ffprobe probeOutput).result session).map Asset.unprobed =
      (staged.result session).map Asset.unprobed := by
  have comes' := comes.withProbe ffprobe probeOutput same.directory
  have start' : (staged.withProbe host ffprobe probeOutput).start = staged.start := same.start
  cases staged.course with
  | unstarted fails =>
      rw [result_spawn comes fails, result_spawn comes' (start'.trans fails)]
      rfl
  | cutShort starts short =>
      rw [result_interrupted comes starts short,
        result_interrupted comes' (start'.trans starts) short]
      rfl
  | failed starts ends fails =>
      rw [result_ended comes starts ends fails,
        result_ended comes' (start'.trans starts) ends fails]
      rfl
  | @succeeded behaviour starts ends waited well =>
      have left' : (staged.withProbe host ffprobe probeOutput).left behaviour =
          staged.left behaviour := by
        show (behaviour.applyTo host.directory staged.args staged.disk).read host.directory
          staged.output = _
        rw [same.directory]
        rfl
      rw [result_left comes reports starts ends waited well,
        result_left comes' others (start'.trans starts) ends waited well, left']
      cases staged.left behaviour <;> rfl

/-- The engine alone decides what comes of a request, and another probe has no
say in it. -/
theorem decides_result (comes : staged.ComesFrom session)
    (reports : ProbeOnlyReports staged.host staged.config) :
    staged.Decides (staged.result session) ∧
    ∀ host ffprobe probeOutput, staged.SameEngine host →
      ProbeOnlyReports host { staged.config with ffprobe, probeOutput } →
        ((staged.withProbe host ffprobe probeOutput).result session).map Asset.unprobed =
          (staged.result session).map Asset.unprobed :=
  ⟨decides comes reports, fun _ _ _ => result_withProbe comes reports⟩

/-- A clip that is taken over as it is, staged and ready for the engine. -/
def copied : StagedRequest where
  request := { id := "1", suffix := "a" }
  host := Request.bench
  config := { ffprobe := "/bin/ffprobe" }
  program := {
    graph := {}
    final := { video := some "0:v", audio := none }
    args := ["-map", "0:v"]
    inputs := [⟨[1], .video, {}⟩]
    format := "mp4"
    baseResolution := none
    singlePass := true }
  staging := ⟨"/tmp/vcomp/vcomp-1-a", ["tmp", "vcomp", "vcomp-1-a"]⟩
  inputs := ["/tmp/vcomp/vcomp-1-a/input_0.mp4"]
  disk := ⟨Request.benchSession.disk.entries ++ [(["tmp"], .directory),
    (["tmp", "vcomp"], .directory), (["tmp", "vcomp", "vcomp-1-a"], .directory),
    (["tmp", "vcomp", "vcomp-1-a", "input_0.mp4"], .file [1] false)]⟩

theorem copied_comesFrom : copied.ComesFrom Request.benchSession :=
  ⟨⟨copied.disk.entries.dropLast⟩, by decide +kernel, by decide +kernel⟩

theorem decides_copied :
    copied.Decides (copied.result Request.benchSession) ∧
    (∃ asset, copied.result Request.benchSession = .ok asset) ∧
    ((copied.withProbe Request.bench "/bin/ffprobe" false).result Request.benchSession).map
      Asset.unprobed = (copied.result Request.benchSession).map Asset.unprobed := by
  have reports : ProbeOnlyReports copied.host copied.config :=
    fun _ _ _ _ => Request.output_of_bench_probe
  obtain ⟨decides, same⟩ := decides_result copied_comesFrom reports
  have ends : copied.EndsInTime { output := some [7] } := ⟨by decide, fun _ never => nomatch never⟩
  have succeeds := decides.ok_iff.mpr ⟨{ output := some [7] }, [7], by decide +kernel, ends, rfl,
    rfl, by decide +kernel⟩
  exact ⟨decides, succeeds, same _ _ _ ⟨rfl, rfl⟩ fun asked => by cases asked⟩

/-- An engine that fails and leaves a process behind, which keeps the diagnostic
output open for another six seconds. -/
def lingering : Behaviour where
  stderr := Text.Utf8.encode "boom\n"
  ending := .exited 1
  stderrHeld := 6000

/-- The same request with such an engine. -/
def unheard : StagedRequest :=
  { copied with
    host := { Request.bench with programs := [(["bin", "ffmpeg"], fun _ => lingering)] } }

/-- The error does not have what the engine wrote. -/
theorem lingering_stderr_lost :
    unheard.start = .ok lingering ∧ unheard.EndsInTime lingering ∧
      lingering.ending = .exited 1 ∧ Text.Utf8.decodeLossy lingering.stderr = "boom\n" ∧
        unheard.result Request.benchSession =
          .error (.engine "ffmpeg exited with exit status: 1" "" (some 1) (some "")) := by
  have comes : unheard.ComesFrom Request.benchSession :=
    ⟨⟨copied.disk.entries.dropLast⟩, by decide +kernel, by decide +kernel⟩
  have starts : unheard.start = .ok lingering := ok_of_toOption (by decide +kernel)
  have ends : unheard.EndsInTime lingering := ⟨by decide, fun _ never => nomatch never⟩
  refine ⟨starts, ends, rfl, by decide +kernel, ?_⟩
  rw [result_failed comes starts ends rfl (by decide)]
  exact congrArg Except.error (by decide +kernel)

end StagedRequest

end Montage
