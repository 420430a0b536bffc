import NodeAtlas.Jobs.Repository

/-! `Worker` of the jobs package, over whatever its repository, its handler and
its clock are. -/

set_option autoImplicit false

namespace NodeAtlas.Jobs

/-- `WorkerOptions` once the defaults are filled in. -/
structure Worker where
  owner : GoString
  leaseDuration : Duration
  retryDelay : Int → Duration

def second : Duration := 1000000000

/-- The default delay: a second, doubled with each attempt, five minutes at most. -/
def defaultRetryDelay (attempt : Int) : Duration :=
  min (second * 2 ^ (min (attempt - 1) 8).toNat) (300 * second)

/-- What is stored as `last_error`: at most 1024 bytes of the safe message. -/
def safeErrorMessage (failure : GoError) : GoString :=
  let message := match failure.asProvider with
    | some error => error.message
    | none => failure.message
  (trimSpace message).take 1024

/-- What a worker calls. -/
structure Host (m : Type → Type) where
  now : m Instant
  leaseNext : GoString → Instant → Duration → m (Except GoError Lease)
  retry : GoString → GoString → Instant → GoString → m (Except GoError Unit)
  complete : GoString → GoString → Instant → m (Except GoError Unit)
  fail : GoString → GoString → Instant → GoString → m (Except GoError Unit)
  handle : Job → m (Except GoError Unit)

namespace Worker

/-- `NewWorker` with no options, as the application composes it. -/
def standard : Worker := ⟨text "worker", 30 * second, defaultRetryDelay⟩

variable {m : Type → Type} [Monad m] (host : Host m) (worker : Worker)

def settle (lease : Lease) : Except GoError Unit → m (Except GoError Unit)
  | .ok () => do
      let now ← host.now
      host.complete lease.job.id lease.owner now
  | .error failure => do
      let now ← host.now
      if failure.retryable then
        host.retry lease.job.id lease.owner (now + worker.retryDelay lease.job.attempts)
          (safeErrorMessage failure)
      else host.fail lease.job.id lease.owner now (safeErrorMessage failure)

def runOnce : m (Except GoError Unit) := do
  let now ← host.now
  match ← host.leaseNext worker.owner now worker.leaseDuration with
  | .error failure => return .error failure
  | .ok lease => worker.settle host lease (← host.handle lease.job)

/-- `Worker.Run`, for as many cycles as the process lives; `pause` is the wait
for the next poll, which a cancelled context ends. -/
def run (pause : m Bool) : Nat → m (Except GoError Unit)
  | 0 => return .ok ()
  | cycles + 1 => do
      match ← worker.runOnce host with
      | .ok () => run pause cycles
      | .error failure =>
          if failure.is .noJob then
            if ← pause then return .ok () else run pause cycles
          else return .error failure

end Worker

end NodeAtlas.Jobs
