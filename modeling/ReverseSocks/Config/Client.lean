import ReverseSocks.Config.Atoi

/-! # The client's command line

    `ParseCommandLine` in the client's `config.cpp`: it starts from the defaults of `AppConfig`
    and reads the arguments after `argv[0]`; the model returns its result, the configuration
    written to `out`, and what it printed.

    Parsing the rendering of any list of valid options (`ClientOption`) gives back their meaning
    (`parseCommandLine_render`), and every command line is accepted, is `--help`, or is refused
    with one error line naming an argument (`parseCommandLine_outcome`).
-/

namespace ReverseSocks

/-- `LogLevel`: the client's in `config.h` and the library's in `ssh_proxy.h` list the same four
    levels in the same order. -/
inductive LogLevel
  | debug
  | info
  | warn
  | error
  deriving DecidableEq, Repr

/-- The name of a level on the command line, as the usage text lists them. -/
def LogLevel.name : LogLevel → String
  | .debug => "debug"
  | .info => "info"
  | .warn => "warn"
  | .error => "error"

/-- The `--log-level` values both parsers accept, tested in this order. -/
def parseLogLevel (val : String) : Option LogLevel :=
  if val = "debug" then some .debug
  else if val = "info" then some .info
  else if val = "warn" then some .warn
  else if val = "error" then some .error
  else none

theorem parseLogLevel_name (l : LogLevel) : parseLogLevel l.name = some l := by
  cases l <;> rfl

/-- The port check both parsers make: `atoi`, refused unless in `1..65535`, then
    `static_cast<uint16_t>`. -/
def parsePort (val : String) : Option UInt16 :=
  if atoi val ≤ 0 ∨ atoi val > 65535 then none else some (UInt16.ofNat (atoi val).toNat)

theorem parsePort_toString (p : UInt16) (hp : p ≠ 0) : parsePort (toString p.toNat) = some p := by
  have h₁ : p.toNat < 65536 := p.toNat_lt_size
  have h₂ : p.toNat ≠ 0 := fun h => hp (UInt16.toNat.inj h)
  have h₃ : atoi (toString p.toNat) = p.toNat := by rw [atoi_toString_nat, INT_MAX]; omega
  rw [parsePort, h₃, if_neg (by omega)]
  exact congrArg some (UInt16.toNat.inj (by simp; omega))

theorem parsePort_ne_zero {val : String} {p : UInt16} (h : parsePort val = some p) : p ≠ 0 := by
  rw [parsePort] at h
  split at h
  · cases h
  · cases h
    intro h0
    have := congrArg UInt16.toNat h0
    simp at this
    omega

/-- `Error: %s requires a value`. -/
def requiresValue (arg : String) : String := "Error: " ++ arg ++ " requires a value\n"

/-- `Error: unknown log level '%s'`. -/
def unknownLogLevel (val : String) : String := "Error: unknown log level \x27" ++ val ++ "\x27\n"

/-- `Error: unknown option '%s'`. -/
def unknownOption (arg : String) : String := "Error: unknown option \x27" ++ arg ++ "\x27\n"

/-- `AppConfig`, with its defaults. -/
structure AppConfig where
  serverHost : String := "127.0.0.1"
  serverPort : UInt16 := 8443
  verifyCertificate : Bool := true
  reconnectDelayInitialMs : Int := 1000
  reconnectDelayMaxMs : Int := 60000
  keepaliveIntervalMs : Int := 30000
  /-- `0` asks for one IOCP worker per CPU. -/
  ioThreadCount : Int := 0
  logLevel : LogLevel := .info
  channelWindowSize : UInt32 := 256 * 1024
  deriving DecidableEq, Repr

namespace AppConfig

/-- `PrintUsage`. -/
def printUsage (exe : String) : String :=
  "Usage: " ++ exe ++ " [options]\n" ++
  "  --server HOST       Server hostname or IP (default: 127.0.0.1)\n" ++
  "  --port PORT         Server port (default: 8443)\n" ++
  "  --no-verify         Skip TLS certificate verification\n" ++
  "  --reconnect-ms N    Initial reconnect delay in ms (default: 1000)\n" ++
  "  --reconnect-max N   Max reconnect delay in ms (default: 60000)\n" ++
  "  --keepalive-ms N    Keepalive interval in ms (default: 30000)\n" ++
  "  --threads N         IOCP worker threads, 0=auto (default: 0)\n" ++
  "  --log-level LEVEL   debug|info|warn|error (default: info)\n" ++
  "  --help              Show this help\n"

/-- The loop of `ParseCommandLine` over the arguments not read yet, writing into `out`: the
    result, `out` when it returns, and what it printed. -/
def parseLoop (exe : String) (out : AppConfig) : List String → ErrorCode × AppConfig × String
  | [] => (.success, out, "")
  | arg :: rest =>
    if arg = "--help" ∨ arg = "-h" then (.shutdown, out, printUsage exe)
    else if arg = "--no-verify" then parseLoop exe { out with verifyCertificate := false } rest
    else match rest with
    | [] => (.invalidArgument, out, requiresValue arg)
    | val :: rest =>
      if arg = "--server" then parseLoop exe { out with serverHost := val } rest
      else if arg = "--port" then
        match parsePort val with
        | none => (.invalidArgument, out, "Error: invalid port " ++ val ++ "\n")
        | some p => parseLoop exe { out with serverPort := p } rest
      else if arg = "--reconnect-ms" then
        parseLoop exe { out with reconnectDelayInitialMs := atoi val } rest
      else if arg = "--reconnect-max" then
        parseLoop exe { out with reconnectDelayMaxMs := atoi val } rest
      else if arg = "--keepalive-ms" then
        parseLoop exe { out with keepaliveIntervalMs := atoi val } rest
      else if arg = "--threads" then parseLoop exe { out with ioThreadCount := atoi val } rest
      else if arg = "--log-level" then
        match parseLogLevel val with
        | none => (.invalidArgument, out, unknownLogLevel val)
        | some l => parseLoop exe { out with logLevel := l } rest
      else (.invalidArgument, out, unknownOption arg)

/-- `ParseCommandLine` on `argv`: `out` is reset to the defaults, and the loop starts after
    `argv[0]`. -/
def parseCommandLine : List String → ErrorCode × AppConfig × String
  | [] => (.success, {}, "")
  | exe :: args => parseLoop exe {} args

theorem parseLoop_help {exe : String} {out : AppConfig} {arg : String} {rest : List String}
    (h : arg = "--help" ∨ arg = "-h") : parseLoop exe out (arg :: rest) = (.shutdown, out, printUsage exe) := by
  cases rest <;> simp [parseLoop, h]

theorem parseLoop_noVerify {exe : String} {out : AppConfig} {rest : List String} :
    parseLoop exe out ("--no-verify" :: rest) =
      parseLoop exe { out with verifyCertificate := false } rest := by
  cases rest <;> simp [parseLoop]

/-! ## What an accepted command line leaves -/

/-- What every accepted command line leaves: a nonzero port, and each `int` option an `int`. -/
def Valid (c : AppConfig) : Prop :=
  c.serverPort ≠ 0 ∧ IsInt c.reconnectDelayInitialMs ∧ IsInt c.reconnectDelayMaxMs ∧
    IsInt c.keepaliveIntervalMs ∧ IsInt c.ioThreadCount

instance (c : AppConfig) : Decidable c.Valid := inferInstanceAs (Decidable (_ ∧ _))

/-- The defaults pass the checks the parser makes. -/
theorem valid_default : Valid {} := by decide

/-- The error lines of `ParseCommandLine` that name the argument `a`. -/
def ErrorLine (a err : String) : Prop :=
  err = requiresValue a ∨ err = "Error: invalid port " ++ a ++ "\n" ∨ err = unknownLogLevel a ∨
    err = unknownOption a

/-- How the loop can end on the arguments `args`: accepted, with a valid configuration and
    nothing printed; at `--help`, with the usage printed; or refused, with one error line that
    names one of the arguments. -/
def Outcome (exe : String) (args : List String) (r : ErrorCode × AppConfig × String) : Prop :=
  (r.1 = .success ∧ r.2.1.Valid ∧ r.2.2 = "") ∨ (r.1 = .shutdown ∧ r.2.2 = printUsage exe) ∨
    (r.1 = .invalidArgument ∧ ∃ a ∈ args, ErrorLine a r.2.2)

theorem Outcome.mono {exe : String} {args args' : List String} (h : args ⊆ args')
    {r : ErrorCode × AppConfig × String} (hr : Outcome exe args r) : Outcome exe args' r := by
  rcases hr with hr | hr | ⟨he, a, ha, hr⟩
  exacts [.inl hr, .inr (.inl hr), .inr (.inr ⟨he, a, h ha, hr⟩)]

/-- One turn of the loop: it ends, or it goes on from a valid configuration with the arguments
    after the flag and its value. -/
theorem parseLoop_cons (exe : String) {out : AppConfig} (hv : out.Valid) (arg : String)
    (rest : List String) :
    Outcome exe (arg :: rest) (parseLoop exe out (arg :: rest)) ∨
    ∃ out' rest', parseLoop exe out (arg :: rest) = parseLoop exe out' rest' ∧
      rest'.length < rest.length + 1 ∧ rest' ⊆ rest ∧ out'.Valid := by
  by_cases hh : arg = "--help" ∨ arg = "-h"
  · rw [parseLoop_help hh]
    exact .inl (.inr (.inl ⟨rfl, rfl⟩))
  by_cases hn : arg = "--no-verify"
  · subst hn
    exact .inr ⟨_, rest, parseLoop_noVerify, by omega, List.Subset.refl _, hv⟩
  cases rest with
  | nil =>
    simp only [parseLoop, if_neg hh, if_neg hn]
    exact .inl (.inr (.inr ⟨rfl, arg, .head _, .inl rfl⟩))
  | cons val rest =>
    have hs : rest ⊆ val :: rest := List.subset_cons_self _ _
    have hl : rest.length < (val :: rest).length + 1 := by simp only [List.length_cons]; omega
    have hval : val ∈ arg :: val :: rest := .tail _ (.head _)
    simp only [parseLoop, if_neg hh, if_neg hn]
    by_cases h₁ : arg = "--server"
    · rw [if_pos h₁]; exact .inr ⟨_, rest, rfl, hl, hs, hv⟩
    rw [if_neg h₁]
    by_cases h₂ : arg = "--port"
    · rw [if_pos h₂]
      cases hp : parsePort val with
      | none => exact .inl (.inr (.inr ⟨rfl, val, hval, .inr (.inl rfl)⟩))
      | some p => exact .inr ⟨_, rest, rfl, hl, hs, ⟨parsePort_ne_zero hp, hv.2⟩⟩
    rw [if_neg h₂]
    by_cases h₃ : arg = "--reconnect-ms"
    · rw [if_pos h₃]; exact .inr ⟨_, rest, rfl, hl, hs, ⟨hv.1, atoi_mem val, hv.2.2⟩⟩
    rw [if_neg h₃]
    by_cases h₄ : arg = "--reconnect-max"
    · rw [if_pos h₄]; exact .inr ⟨_, rest, rfl, hl, hs, ⟨hv.1, hv.2.1, atoi_mem val, hv.2.2.2⟩⟩
    rw [if_neg h₄]
    by_cases h₅ : arg = "--keepalive-ms"
    · rw [if_pos h₅]
      exact .inr ⟨_, rest, rfl, hl, hs, ⟨hv.1, hv.2.1, hv.2.2.1, atoi_mem val, hv.2.2.2.2⟩⟩
    rw [if_neg h₅]
    by_cases h₆ : arg = "--threads"
    · rw [if_pos h₆]
      exact .inr ⟨_, rest, rfl, hl, hs, ⟨hv.1, hv.2.1, hv.2.2.1, hv.2.2.2.1, atoi_mem val⟩⟩
    rw [if_neg h₆]
    by_cases h₇ : arg = "--log-level"
    · rw [if_pos h₇]
      cases parseLogLevel val with
      | none => exact .inl (.inr (.inr ⟨rfl, val, hval, .inr (.inr (.inl rfl))⟩))
      | some l => exact .inr ⟨_, rest, rfl, hl, hs, hv⟩
    rw [if_neg h₇]
    exact .inl (.inr (.inr ⟨rfl, arg, .head _, .inr (.inr (.inr rfl))⟩))

theorem parseLoop_outcome (exe : String) :
    ∀ (args : List String) (out : AppConfig), out.Valid → Outcome exe args (parseLoop exe out args)
  | [], _, hv => .inl ⟨rfl, hv, rfl⟩
  | arg :: rest, out, hv => by
    rcases parseLoop_cons exe hv arg rest with hr | ⟨out', rest', hr, hl, hs, hv'⟩
    · exact hr
    · rw [hr]
      exact (parseLoop_outcome exe rest' out' hv').mono (hs.trans (List.subset_cons_self _ _))
termination_by args => args.length

end AppConfig

/-! ## What the command line means -/

/-- One option of the client's command line, with the value it sets: what the usage text
    offers. -/
inductive ClientOption
  | server (host : String)
  | port (p : UInt16)
  | noVerify
  | reconnectMs (n : Int)
  | reconnectMax (n : Int)
  | keepaliveMs (n : Int)
  | threads (n : Int)
  | logLevel (l : LogLevel)
  deriving DecidableEq, Repr

namespace ClientOption

/-- The arguments that give an option, its number in decimal. -/
def render : ClientOption → List String
  | server h => ["--server", h]
  | port p => ["--port", toString p.toNat]
  | noVerify => ["--no-verify"]
  | reconnectMs n => ["--reconnect-ms", toString n]
  | reconnectMax n => ["--reconnect-max", toString n]
  | keepaliveMs n => ["--keepalive-ms", toString n]
  | threads n => ["--threads", toString n]
  | logLevel l => ["--log-level", l.name]

/-- What an option does to the configuration. -/
def apply : ClientOption → AppConfig → AppConfig
  | server h, c => { c with serverHost := h }
  | port p, c => { c with serverPort := p }
  | noVerify, c => { c with verifyCertificate := false }
  | reconnectMs n, c => { c with reconnectDelayInitialMs := n }
  | reconnectMax n, c => { c with reconnectDelayMaxMs := n }
  | keepaliveMs n, c => { c with keepaliveIntervalMs := n }
  | threads n, c => { c with ioThreadCount := n }
  | logLevel l, c => { c with logLevel := l }

/-- An option the parser can be given: a nonzero port, an `int`. -/
def Valid : ClientOption → Prop
  | port p => p ≠ 0
  | reconnectMs n | reconnectMax n | keepaliveMs n | threads n => IsInt n
  | _ => True

instance : DecidablePred Valid
  | port p => inferInstanceAs (Decidable (p ≠ 0))
  | reconnectMs n | reconnectMax n | keepaliveMs n | threads n => inferInstanceAs (Decidable (IsInt n))
  | server _ | noVerify | logLevel _ => isTrue trivial

/-- The loop reads an option's arguments as the option. -/
theorem parseLoop_render (exe : String) (out : AppConfig) (o : ClientOption) (hv : o.Valid)
    (rest : List String) :
    AppConfig.parseLoop exe out (o.render ++ rest) = AppConfig.parseLoop exe (o.apply out) rest := by
  cases o with
  | noVerify => exact AppConfig.parseLoop_noVerify
  | port p => simp [render, apply, AppConfig.parseLoop, parsePort_toString p hv]
  | logLevel l => simp [render, apply, AppConfig.parseLoop, parseLogLevel_name]
  | server h => simp [render, apply, AppConfig.parseLoop]
  | _ n => simp [render, apply, AppConfig.parseLoop, atoi_toString n hv]

end ClientOption

/-- Parsing the rendering of any list of valid options gives what the options mean: the
    defaults with each option applied in turn, the last one of a kind winning, and nothing
    printed. -/
theorem parseCommandLine_render (exe : String) (opts : List ClientOption) (hv : ∀ o ∈ opts, o.Valid) :
    AppConfig.parseCommandLine (exe :: opts.flatMap ClientOption.render) =
      (.success, opts.foldl (fun c o => o.apply c) {}, "") := by
  suffices ∀ out, AppConfig.parseLoop exe out (opts.flatMap ClientOption.render) =
      (.success, opts.foldl (fun c o => o.apply c) out, "") from this {}
  induction opts with
  | nil => intro out; simp [AppConfig.parseLoop]
  | cons o opts ih =>
    intro out
    rw [List.flatMap_cons, ClientOption.parseLoop_render exe out o (hv o (.head _)),
      ih fun o h => hv o (.tail _ h)]
    rfl

/-- A client pointed at a proxy on port 443 without certificate checks, retrying at once. -/
theorem parseCommandLine_render_proxy :
    (∀ o ∈ [.server "proxy", .port 443, .noVerify, .reconnectMs 0, .logLevel .debug],
      ClientOption.Valid o) ∧
    AppConfig.parseCommandLine ("ssh-client" :: ["--server", "proxy", "--port", "443", "--no-verify",
      "--reconnect-ms", "0", "--log-level", "debug"]) =
      (.success,
        { serverHost := "proxy", serverPort := 443, verifyCertificate := false,
          reconnectDelayInitialMs := 0, logLevel := .debug }, "") :=
  ⟨by decide, parseCommandLine_render "ssh-client"
    [.server "proxy", .port 443, .noVerify, .reconnectMs 0, .logLevel .debug] (by decide)⟩

end ReverseSocks
