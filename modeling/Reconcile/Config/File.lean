import Reconcile.Config.Toml
import Reconcile.FileStore

/-!
# Settings files

Settings are saved as their TOML text and loaded by reading that text back,
which also validates them. Saving first makes the directory the file goes
in, and the directories it made stay even when the file cannot be written.
An error names the path as written: the file's, or the directory's when
that could not be made.
-/

namespace Reconcile

namespace ReconcileConfig

/-- Reads settings from a file. -/
def load (store : FileStore) (path : String) : Except ConfigError ReconcileConfig :=
  match store.read path with
  | .error e => .error (.read path e.text)
  | .ok text => ofToml text

/-- Writes settings to a file, making its directory first: the store after
the attempt, and whether it worked. -/
def save (c : ReconcileConfig) (store : FileStore) (path : String) : FileStore × Except ConfigError Unit :=
  match c.toToml with
  | .error e => (store, .error e)
  | .ok text =>
    let (store, made) : FileStore × Except ConfigError Unit := match parentText? path with
      | some parent =>
        let (s, r) := store.makeDirectoriesAt parent
        (s, r.mapError fun e => .write parent e.text)
      | none => (store, .ok ())
    match made with
    | .error e => (store, .error e)
    | .ok () =>
      match store.write path text with
      | .ok s => (s, .ok ())
      | .error e => (store, .error (.write path e.text))

end ReconcileConfig

end Reconcile
