/-!
# The PTY lifecycle

The states of `ui/pty/state.rs` and what the actor of `ui/pty/actor.rs` makes of each intent.
-/

namespace Anycode.Ui

inductive PtyLifecycleState where
  /-- Not yet attached, buffering input. -/
  | pending (buffer : List (List UInt8))
  /-- Attached but without output yet. -/
  | attached (buffer : List (List UInt8))
  /-- Input goes directly to the PTY. -/
  | ready
  /-- Input is dropped, and the exit of the old process is ignored. -/
  | restarting
  deriving DecidableEq

namespace PtyLifecycleState

def isReady : PtyLifecycleState → Bool
  | .ready => true
  | _ => false

def isAttached : PtyLifecycleState → Bool
  | .attached _ => true
  | _ => false

def isRestarting : PtyLifecycleState → Bool
  | .restarting => true
  | _ => false

end PtyLifecycleState

inductive PtyIntent where
  | attach
  | gotOutput
  | bufferInput (bytes : List UInt8)
  | detach
  | spawnFailed

inductive PtySideEffect where
  | flushBuffer (buffer : List (List UInt8))
  deriving DecidableEq

/-- The reduced state, and the side effects. -/
def handleIntent (state : PtyLifecycleState) : PtyIntent → PtyLifecycleState × List PtySideEffect
  | .attach =>
    match state with
    | .pending buffer | .attached buffer => (.attached buffer, [])
    | .restarting => (.attached [], [])
    | .ready => (.ready, [])
  | .gotOutput =>
    match state with
    | .attached [] => (.ready, [])
    | .attached buffer => (.ready, [.flushBuffer buffer])
    | other => (other, [])
  | .bufferInput bytes =>
    match state with
    | .pending buffer => (.pending (buffer ++ [bytes]), [])
    | .attached buffer => (.attached (buffer ++ [bytes]), [])
    | other => (other, [])
  | .detach => (.restarting, [])
  | .spawnFailed =>
    match state with
    | .restarting => (.pending [], [])
    | other => (other, [])

end Anycode.Ui
