/-
# `Platform.StubMeaning` — what the stubs in CoreDisplay do

The patches of the shared cache are code as well, and a process that calls a patched function
executes what the hook left on its page:

    GetMTLTexture, GetMTLCommandQueue            return null at once
    RunFullDisplayPipe, Present, AccessComplete  return at once
    RunFullDisplayPipe, null guard               calls nothing

The guard is meant to skip a call for a null object.  It has no room for the call: the patched
code calls nothing for any object, and for null it goes on five bytes behind the patch
(`guard_calls_nothing`).
-/
import NootedGreen.Hooks.KextPatches
import NootedGreen.Platform.MetalStubs

namespace NootedGreen

open Patching
open X86 (Encodes execute execute_of_encodes)

/-! ## Patches on a page -/

/-- The functions that return null. -/
def nullStubs : List DYLDPatch := [getMTLTextureStub, getMTLCommandQueueStub]

/-- The functions that are skipped. -/
def skipStubs : List DYLDPatch := [runFullDisplayPipeSkip, presentSkip, accessCompleteSkip]

def returningStubs : List DYLDPatch := nullStubs ++ skipStubs

theorem returningStubs_alone : ∀ p ∈ returningStubs, Alone p := by decide

theorem place_add_length_le {bytes : List (BitVec 8)} {data : Page} {place : Nat}
    (hat : At bytes data.toList place) (hpos : 0 < bytes.length) :
    place + bytes.length ≤ 2 ^ 64 := by
  have hlen := hat.length_le
  rw [List.length_drop, Vector.length_toList] at hlen
  omega

section Page

variable {env : DyldEnv} {path : List (BitVec 8)}
  (hpath : env.lilu.matchSharedCachePath path = true)
  (hventura : env.isVentura = true) (hlilu : env.lilu.ReplacesAll)
  (hfind : env.lilu.FindsAndReplaces) {p : DYLDPatch} {data : Page} {place : Nat}

include hpath hventura hlilu hfind in
/-- A process that comes to a patch on its page executes it. -/
theorem Alone.reaches (hp : Alone p) (hlist : p ∈ metalPatches env.boot)
    (hat : At p.find data.toList place) (machine : X86.Env) (base : X86.Word) {s : X86.State}
    {t : X86.Word × X86.State}
    (hcode : execute machine p.replace (base + BitVec.ofNat 64 place) s = some t) :
    X86.Reaches machine ⟨base, (wrapCsValidatePage env (some path) data).toList⟩
      (base + BitVec.ofNat 64 place, s) t := by
  have hwritten := hp.written hlilu hfind hventura hlist hat
  rw [← wrapCsValidatePage_shared hpath] at hwritten
  exact X86.reaches_execute hcode hwritten (place_add_length_le hwritten hp.nonempty)

end Page

/-! ## Functions that return -/

/-- What is returned in `rax`. -/
def returnValue (p : DYLDPatch) (s : X86.State) : X86.Word :=
  if p ∈ nullStubs then 0 else s.reg .rax

/-- Returned at once, with no effect but on `rax` and the flags. -/
structure ReturnedAtOnce (v : X86.Word) (s t : X86.State) : Prop where
  mem : t.mem = s.mem
  rax : t.reg .rax = v
  rsp : t.reg .rsp = s.reg .rsp + 8
  others : ∀ r, r ≠ .rax → r ≠ .rsp → t.reg r = s.reg r

theorem execute_null {bytes : List (BitVec 8)} {is : X86.Block}
    (h : Encodes bytes ((.alu .xor .dword (.reg .rax) .rax, 2) :: (.ret, 1) :: is))
    (machine : X86.Env) (pc : X86.Word) (s : X86.State) :
    ∃ t, execute machine bytes pc s = some (s.read .qword (s.reg .rsp), t) ∧
      ReturnedAtOnce 0 s t := by
  have hrun : X86.run machine ((.alu .xor .dword (.reg .rax) .rax, 2) :: (.ret, 1) :: is) pc s =
      (s.read .qword (s.reg .rsp), ((s.setReg .dword .rax 0).setReg .qword .rsp
        (s.reg .rsp + 8)).withFlags (X86.zeroFlags 0#32)) := by
    rw [X86.run_alu, X86.run_ret]
    simp [X86.State.putResult, X86.State.put, X86.Alu.run]
  refine ⟨_, (execute_of_encodes h machine pc s).trans (congrArg some hrun), ?_⟩
  constructor
  · rfl
  · simp
  · simp
  · intro r hrax hrsp
    simp [hrax, hrsp]

theorem execute_ret {bytes : List (BitVec 8)} {is : X86.Block} (h : Encodes bytes ((.ret, 1) :: is))
    (machine : X86.Env) (pc : X86.Word) (s : X86.State) :
    ∃ t, execute machine bytes pc s = some (s.read .qword (s.reg .rsp), t) ∧
      ReturnedAtOnce (s.reg .rax) s t := by
  refine ⟨s.setReg .qword .rsp (s.reg .rsp + 8), execute_of_encodes h machine pc s, ?_⟩
  constructor
  · rfl
  · simp
  · simp
  · intro r _ hrsp
    simp [hrsp]

theorem encodes_nullStubs : ∀ p ∈ nullStubs, Encodes p.replace
    ((.alu .xor .dword (.reg .rax) .rax, 2) :: (.ret, 1) ::
      List.replicate (p.replace.length - 3) (.nop, 1)) := by
  decide

theorem encodes_skipStubs : ∀ p ∈ skipStubs, Encodes p.replace
    ((.ret, 1) :: List.replicate (p.replace.length - 1) (.nop, 1)) := by
  decide

theorem execute_returningStub {p : DYLDPatch} (hp : p ∈ returningStubs) (machine : X86.Env)
    (pc : X86.Word) (s : X86.State) :
    ∃ t, execute machine p.replace pc s = some (s.read .qword (s.reg .rsp), t) ∧
      ReturnedAtOnce (returnValue p s) s t := by
  rcases List.mem_append.mp hp with hnull | hskip
  · have hvalue : returnValue p s = 0 := if_pos hnull
    rw [hvalue]
    exact execute_null (encodes_nullStubs p hnull) machine pc s
  · have hother : ∀ p ∈ skipStubs, p ∉ nullStubs := by decide
    have hvalue : returnValue p s = s.reg .rax := if_neg (hother p hskip)
    rw [hvalue]
    exact execute_ret (encodes_skipStubs p hskip) machine pc s

/-! ## The guard -/

/-- The object whose method is called. -/
def pipeObject (s : X86.State) : X86.Word := s.read .qword (s.reg .r14 + 0x888#64)

/-- What the method returns with: the object is in `rdi`, its table in `rax`. -/
def pipeCall (machine : X86.Env) (pc : X86.Word) (s : X86.State) : X86.State :=
  let u := (s.setReg .qword .rdi (pipeObject s)).setReg .qword .rax (s.read .qword (pipeObject s))
  u.enter machine (pc + 13#64) (u.read .qword (u.reg .rax + 0x28#64))

theorem encodes_guard :
    Encodes fRunfdpGuardSonoma [(.load .qword .rdi (.mem (.base .r14 0x888)), 7),
        (.load .qword .rax (.mem (.base .rdi 0)), 3), (.callAt (.mem (.base .rax 0x28)), 3)] ∧
      Encodes rRunfdpGuardSonoma [(.load .qword .rdi (.mem (.base .r14 0x888)), 7),
        (.alu .test .qword (.reg .rdi) .rdi, 3), (.jcc .e 6, 2), (.nop, 1)] := by
  decide

theorem execute_unguarded (machine : X86.Env) (pc : X86.Word) (s : X86.State) :
    execute machine fRunfdpGuardSonoma pc s = some (pc + 13#64, pipeCall machine pc s) := by
  rw [execute_of_encodes encodes_guard.1, X86.run_load, X86.run_load, X86.run_callAt, X86.run_nil]
  simp [X86.State.get, X86.State.addr, pipeObject, pipeCall, BitVec.add_assoc]

theorem execute_guard (machine : X86.Env) (pc : X86.Word) (s : X86.State) :
    execute machine rRunfdpGuardSonoma pc s =
      some (if pipeObject s == 0#64 then pc + 18#64 else pc + 13#64,
        (s.setReg .qword .rdi (pipeObject s)).withFlags (X86.zeroFlags (pipeObject s))) := by
  rw [execute_of_encodes encodes_guard.2, X86.run_load, X86.run_alu, X86.run_jcc, X86.run_nop,
    X86.run_nil]
  simp [X86.State.get, X86.State.addr, X86.State.putResult, X86.Alu.run, X86.Cond.holds,
    X86.zeroFlags, pipeObject, BitVec.add_assoc]
  split <;> rfl

/-! ## In a process -/

section Process

variable {env : DyldEnv} {path : List (BitVec 8)}
  (hpath : env.lilu.matchSharedCachePath path = true)
  (hventura : env.isVentura = true) (hlilu : env.lilu.ReplacesAll)
  (hfind : env.lilu.FindsAndReplaces) {data : Page} {place : Nat}

include hpath hventura hlilu hfind

/-- On every page of the shared cache and for all boot arguments: a function the chosen list
stubs returns to its caller at once, whatever the state it is called in. -/
theorem stubs_return {p : DYLDPatch} (hp : p ∈ returningStubs) (hlist : p ∈ metalPatches env.boot)
    (hat : At p.find data.toList place) (machine : X86.Env) (base : X86.Word) (s : X86.State) :
    ∃ t, X86.Reaches machine ⟨base, (wrapCsValidatePage env (some path) data).toList⟩
        (base + BitVec.ofNat 64 place, s) (s.read .qword (s.reg .rsp), t) ∧
      ReturnedAtOnce (returnValue p s) s t := by
  have halone := returningStubs_alone p hp
  obtain ⟨t, hcode, ht⟩ := execute_returningStub hp machine (base + BitVec.ofNat 64 place) s
  exact ⟨t, halone.reaches hpath hventura hlilu hfind hlist hat machine base hcode, ht⟩

/-- Where the original calls a method of the object, the guarded code calls nothing, for any
object: it changes `rdi` and the flags and goes on behind the call, or for null five bytes
further. -/
theorem guard_calls_nothing (hlist : runFullDisplayPipeGuard ∈ metalPatches env.boot)
    (hat : At fRunfdpGuardSonoma data.toList place) (machine : X86.Env) (base : X86.Word)
    (s : X86.State) :
    let pc := base + BitVec.ofNat 64 place
    X86.Reaches machine ⟨base, data.toList⟩ (pc, s) (pc + 13#64, pipeCall machine pc s) ∧
      ∃ t, X86.Reaches machine ⟨base, (wrapCsValidatePage env (some path) data).toList⟩ (pc, s)
          (if pipeObject s == 0#64 then pc + 18#64 else pc + 13#64, t) ∧
        t.mem = s.mem ∧ t.reg .rdi = pipeObject s ∧ ∀ r, r ≠ .rdi → t.reg r = s.reg r := by
  intro pc
  have halone : Alone runFullDisplayPipeGuard := metalStubs_alone _ (by decide)
  constructor
  · exact X86.reaches_execute (execute_unguarded machine pc s) hat
      (place_add_length_le hat (by decide))
  · have hcode := execute_guard machine pc s
    refine ⟨_, halone.reaches hpath hventura hlilu hfind hlist hat machine base hcode, rfl, ?_, ?_⟩
    · simp
    · intro r hr
      simp [hr]

end Process

theorem at_pageOf (bytes : List (BitVec 8)) (h : bytes.length ≤ 4096) :
    At bytes (pageOf bytes h).toList 0 :=
  List.prefix_append bytes _

/-- A page that begins with `GetMTLTexture`. -/
def texturePage : Page := pageOf getMTLTextureStub.find (by decide)

theorem get_mtl_texture_returns :
    ∃ t, X86.Reaches idleEnv
        ⟨0, (wrapCsValidatePage (metalEnv false) (some []) texturePage).toList⟩
        (0 + BitVec.ofNat 64 0, blankState) (blankState.read .qword (blankState.reg .rsp), t) ∧
      ReturnedAtOnce (returnValue getMTLTextureStub blankState) blankState t := by
  have hpath : (metalEnv false).lilu.matchSharedCachePath [] = true := rfl
  have hp : getMTLTextureStub ∈ returningStubs := List.mem_cons_self
  have hlist : getMTLTextureStub ∈ metalPatches (metalEnv false).boot := by decide
  have hat : At getMTLTextureStub.find texturePage.toList 0 := at_pageOf _ _
  exact stubs_return hpath rfl sharedLilu_replacesAll sharedLilu_findsAndReplaces hp hlist hat
    idleEnv 0 blankState

/-- A page that begins with the call in `RunFullDisplayPipe`. -/
def pipePage : Page := pageOf fRunfdpGuardSonoma (by decide)

/-- The object is null, and the process goes on behind the patch. -/
theorem guard_leaves_the_patch :
    ∃ t, X86.Reaches idleEnv
        ⟨0, (wrapCsValidatePage (metalEnv false) (some []) pipePage).toList⟩
        (0 + BitVec.ofNat 64 0, blankState) (0 + BitVec.ofNat 64 0 + 18#64, t) ∧
      t.mem = blankState.mem := by
  have hpath : (metalEnv false).lilu.matchSharedCachePath [] = true := rfl
  have hlist : runFullDisplayPipeGuard ∈ metalPatches (metalEnv false).boot := by decide
  have hat : At fRunfdpGuardSonoma pipePage.toList 0 := at_pageOf _ _
  obtain ⟨_, t, hreaches, hmem, _⟩ := guard_calls_nothing hpath rfl sharedLilu_replacesAll
    sharedLilu_findsAndReplaces hlist hat idleEnv 0 blankState
  have hnull : (pipeObject blankState == 0#64) = true := by decide
  rw [hnull, if_pos rfl] at hreaches
  exact ⟨t, hreaches, hmem⟩

end NootedGreen
