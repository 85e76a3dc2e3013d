import PostRules.Config.Read
import PostRules.Files.Tree
import PostRules.Json.Read

/-!
# Loading the configuration

Loading the document from a file reads it, reads the configuration from it, records the
directory it lies in, puts the environment's credentials over it and checks it. Each step has
its kind of failure.
-/

namespace PostRules

/-- Why the configuration, or a batch of posts, could not be loaded. -/
inductive CoreError where
  | io (f : Files.ReadFailure)
  | yaml (e : Yaml.DecodeError)
  | json (e : Json.JsonError)
  | config (text : String)
  deriving Inhabited

/-- The text of a failure. -/
def CoreError.message : CoreError → String
  | .io f => "IO error: " ++ f.message
  | .yaml e => "YAML parse error: " ++ e.message
  | .json e => "JSON parse error: " ++ e.message
  | .config t => "Config error: " ++ t

/-- Reads the configuration document from its text. -/
def AppConfig.fromYaml (text : String) : Except CoreError AppConfig :=
  match AppConfig.ofYaml text with
  | .ok c => .ok c
  | .error e => .error (.yaml e)

/-- Checks the configuration. -/
def AppConfig.check (c : AppConfig) : Except CoreError Unit :=
  match c.validate with
  | .ok () => .ok ()
  | .error t => .error (.config t)

/-- Loads the configuration document at a path of a file tree, with the environment's
credentials put over it, and checks it. -/
def AppConfig.fromFile (tree : Files.FileTree) (path : String) (env : List (String × String)) :
    Except CoreError AppConfig := do
  let text ← match tree.read path with
    | .ok t => pure t
    | .error f => throw (.io f)
  let c ← AppConfig.fromYaml text
  let c := { c with baseDir := Files.parentDir path }.applyEnv env
  c.check
  pure c

end PostRules
