import MeshControl.Config.File
import MeshControl.Host.Call

/-!
# Where the files of the program are

The configuration and the token of the session lie in directories of the user, which the environment
names: `XDG_CONFIG_HOME` and `XDG_CACHE_HOME` if they are absolute, and otherwise `.config` and
`.cache` below `HOME`, or below the home of the user's account if `HOME` names nothing.
-/

namespace MeshControl.CommandLine

/-- The files of the program and where other programs are looked for. -/
structure Places where
  /-- The configuration, if there is a place for it. -/
  configFile? : Option String
  tokenFile : String
  searchPath? : Option String
  deriving DecidableEq, Repr

namespace Places

/-- The directory that a variable names, if it is absolute. -/
def absolute? (env : String → Option String) (name : String) : Option String :=
  (env name).filter (·.startsWith "/")

/-- The home that the environment names. -/
def home? (env : String → Option String) : Option String :=
  (env "HOME").filter (!·.isEmpty)

/-- A file of the program in a directory. -/
def fileIn (directory name : String) : String :=
  Files.join (Files.join directory "hnet") name

/-- The places that an environment names, given the home of the user. -/
def ofEnvironment (env : String → Option String) (home? : Option String) : Places where
  configFile? :=
    let directory? := (absolute? env "XDG_CONFIG_HOME").or (home?.map (Files.join · ".config"))
    directory?.map (fileIn · "config.json")
  tokenFile :=
    let directory? := (absolute? env "XDG_CACHE_HOME").or (home?.map (Files.join · ".cache"))
    fileIn (directory?.getD ((env "TMPDIR").getD "/tmp")) "webtoken"
  searchPath? := env "PATH"

/-- The failure that there is no place for the configuration. -/
def noPlace : Trace := ⟨"Failed to get config directory", []⟩

/-- The file of the configuration. -/
def configFile (p : Places) : Except Trace String :=
  match p.configFile? with
  | some path => .ok path
  | none => .error noPlace

end Places

/-- The places of the user. -/
def findPlaces (env : String → Option String) : Host.Asking Places := do
  match Places.home? env with
  | some home => return .ofEnvironment env (some home)
  | none => return .ofEnvironment env (← Host.accountHome)

/-- Loads the configuration. -/
def loadConfig (p : Places) (env : String → Option String) :
    Host.Asking (Except Trace Config) := ExceptT.run do
  let path ← ExceptT.mk (return p.configFile)
  let c ← ExceptT.mk do
    return (← Host.onFiles (Config.loadFrom path)).mapError Config.LoadError.trace
  ExceptT.mk (return (c.withEnvironment env).mapError Config.LoadError.trace)

/-- Writes the default configuration unless there is one; the file that it stands in. -/
def initConfig (p : Places) : Host.Asking (Except Trace String) := ExceptT.run do
  let path ← ExceptT.mk (return p.configFile)
  if ← (Host.onFiles (Dialogue.query (Files.Call.isThere path)) : Host.Asking Bool) then
    throw ⟨"Config file already exists at " ++ path, []⟩
  ExceptT.mk do return (← Host.onFiles (Config.saveTo path {})).mapError Config.SaveError.trace
  return path

end MeshControl.CommandLine
