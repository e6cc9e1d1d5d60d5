import Porthook.Foundations.Calls
import Porthook.Gateway.Routing

/-!
# How old a resolved custom domain can be

Any number of calls share the cache of resolved custom domains; each reads the cache, asks the
control plane, and keeps the answer, whose age is counted from the start of the call.
-/

namespace Porthook.Gateway

open Protocol Transition Calls

structure ResolveRequest where
  hostname : Bytes
  now : Nat

inductive ResolveCall where
  | looking (request : ResolveRequest)
  | asking (request : ResolveRequest)
  | keeping (request : ResolveRequest) (result : CustomDomainResolution)

abbrev ResolveEvent (Id : Type) :=
  Event Id ResolveRequest ResolveCall (Option CustomDomainResolution)
    (Option CustomDomainResolution)

/-- `ResolveCustomDomain` step by step; a draw is what the control plane answers. -/
def resolveService : Service CustomDomainCache ResolveRequest ResolveCall
    (Option CustomDomainResolution) (Option CustomDomainResolution) where
  enter := .looking
  advance resolver call answer :=
    match call with
    | .looking request =>
      match resolver.kept? request.hostname request.now with
      | some result => (resolver, .returns (some result))
      | none => (resolver, .continues (.asking request))
    | .asking request =>
      match answer with
      | none => (resolver, .returns none)
      | some result => (resolver, .continues (.keeping request result))
    | .keeping request result =>
      (resolver.keep request.hostname request.now result, .returns (some result))

theorem resolveService_answer (resolver : CustomDomainCache) (request : ResolveRequest)
    (next : Option CustomDomainResolution) :
    resolveService.answer resolver request [none, next, none] =
      ((resolver.resolveCustomDomain request.hostname request.now next).1,
        some (resolver.resolveCustomDomain request.hostname request.now next).2) := by
  unfold CustomDomainCache.resolveCustomDomain
  cases kept : resolver.kept? request.hostname request.now with
  | some => simp [Service.answer, Service.complete, resolveService, kept]
  | none => cases next <;> simp [Service.answer, Service.complete, resolveService, kept]

namespace CustomDomainCache

def ttl (resolver : CustomDomainCache) (result : CustomDomainResolution) : Int :=
  if result.found then resolver.hitTTL else resolver.missTTL

theorem keep_eq (resolver : CustomDomainCache) (hostname : Bytes) (now : Nat)
    (result : CustomDomainResolution) :
    resolver.keep hostname now result =
      if key hostname = [] ∨ resolver.ttl result ≤ 0 then resolver
      else { resolver with
        cache := Function.update resolver.cache (key hostname)
          (some ⟨result, now + (resolver.ttl result).toNat⟩) } := rfl

variable {resolver : CustomDomainCache} {result : CustomDomainResolution}

theorem kept?_eq_some {hostname : Bytes} {now : Nat}
    (kept : resolver.kept? hostname now = some result) :
    ∃ entry, resolver.cache (key hostname) = some entry ∧ now < entry.expires ∧
      entry.result = result := by
  unfold kept? at kept
  split at kept
  · cases kept
  obtain ⟨entry, cached, fresh⟩ := Option.bind_eq_some_iff.mp kept
  split at fresh
  next young => exact ⟨entry, cached, young, Option.some.inj fresh⟩
  · cases fresh

theorem keep_ttl (resolver : CustomDomainCache) (hostname : Bytes) (now : Nat)
    (result other : CustomDomainResolution) :
    (resolver.keep hostname now result).ttl other = resolver.ttl other := by
  rw [keep_eq]
  split <;> rfl

theorem keep_cache {hostname name : Bytes} {now : Nat} {entry : CustomDomainCacheEntry}
    (cached : (resolver.keep hostname now result).cache name = some entry) :
    resolver.cache name = some entry ∨ key hostname = name ∧ entry.result = result ∧
      (entry.expires : Int) = now + resolver.ttl result := by
  rw [keep_eq] at cached
  split at cached
  · exact .inl cached
  next lasting =>
    dsimp only at cached
    by_cases same : name = key hostname
    · subst same
      rw [Function.update_self] at cached
      cases cached
      refine .inr ⟨rfl, rfl, ?_⟩
      have positive : 0 < resolver.ttl result := Int.not_le.mp fun none => lasting (.inr none)
      rw [Int.natCast_add, Int.toNat_of_nonneg (Int.le_of_lt positive)]
    · rw [Function.update_of_ne same] at cached
      exact .inl cached

end CustomDomainCache

section Runs

variable {Id : Type}

/-- The control plane gave this answer to the call that `id` is in or was in last. -/
def Answered (trace : List (ResolveEvent Id)) (id : Id) (request : ResolveRequest)
    (answer : Option CustomDomainResolution) : Prop :=
  ∃ past outcome rest, trace = past ++ .stepped id (.asking request) answer outcome :: rest ∧
    Serves past id request ∧ ∀ event ∈ rest, event.starts? ≠ some id

/-- A call for the same name was given this answer before, and started less than the
time to live of that answer earlier. -/
def KeptFor (resolver : CustomDomainCache) (trace : List (ResolveEvent Id))
    (request : ResolveRequest) (result : CustomDomainResolution) : Prop :=
  ∃ past other earlier, past <+: trace ∧ Answered past other earlier (some result) ∧
    CustomDomainCache.key earlier.hostname = CustomDomainCache.key request.hostname ∧
    (request.now : Int) - earlier.now < resolver.ttl result

/-- A reply is the answer given to this very call, or one that was kept. -/
def Sourced (resolver : CustomDomainCache) (before : List (ResolveEvent Id)) :
    ResolveEvent Id → Prop
  | .stepped id call answer (.returns reply) => ∃ request, Serves before id request ∧
      (Answered (before ++ [.stepped id call answer (.returns reply)]) id request reply ∨
        ∃ result, reply = some result ∧ KeptFor resolver before request result)
  | _ => True

variable {trace : List (ResolveEvent Id)} {event : ResolveEvent Id} {id : Id}
  {request : ResolveRequest} {answer : Option CustomDomainResolution}

theorem Answered.concat (answered : Answered trace id request answer)
    (other : event.starts? ≠ some id) : Answered (trace ++ [event]) id request answer := by
  obtain ⟨past, outcome, rest, rfl, serves, alone⟩ := answered
  refine ⟨past, outcome, rest ++ [event], by simp, serves, fun later member => ?_⟩
  rcases List.mem_append.mp member with old | new
  · exact alone later old
  · rw [List.mem_singleton.mp new]
    exact other

structure CacheInv (resolver store : CustomDomainCache) (trace : List (ResolveEvent Id)) :
    Prop where
  ttl : ∀ result, store.ttl result = resolver.ttl result
  entries : ∀ name entry, store.cache name = some entry → ∃ past other earlier, past <+: trace ∧
    Answered past other earlier (some entry.result) ∧
    CustomDomainCache.key earlier.hostname = name ∧
    (entry.expires : Int) = earlier.now + resolver.ttl entry.result
  sourced : Justified (Sourced resolver) trace

variable {store : CustomDomainCache}

theorem CacheInv.concat {resolver : CustomDomainCache} (inv : CacheInv resolver store trace)
    (next : Sourced resolver trace event) : CacheInv resolver store (trace ++ [event]) := by
  refine ⟨inv.ttl, fun name entry cached => ?_, inv.sourced.concat next⟩
  obtain ⟨past, other, earlier, before, found⟩ := inv.entries name entry cached
  exact ⟨past, other, earlier, before.trans (List.prefix_append _ _), found⟩

def ResolveHolding (_ : CustomDomainCache) (trace : List (ResolveEvent Id)) (id : Id) :
    ResolveCall → Prop
  | .looking request | .asking request => Serves trace id request
  | .keeping request result => Serves trace id request ∧ Answered trace id request (some result)

theorem ResolveHolding.concat {next : CustomDomainCache} {call : ResolveCall}
    (holding : ResolveHolding store trace id call) (other : event.starts? ≠ some id) :
    ResolveHolding next (trace ++ [event]) id call := by
  cases call with
  | looking | asking => exact Serves.concat holding other
  | keeping => exact ⟨holding.1.concat other, holding.2.concat other⟩

theorem cache_rely (resolver : CustomDomainCache) : resolveService.Rely (fun _ _ _ => True)
      (fun store (trace : List (ResolveEvent Id)) => CacheInv resolver store trace)
      ResolveHolding where
  start id request inv := ⟨inv.concat trivial, serves_started _ id request⟩
  start_other request other inv holding :=
    holding.concat fun same => other (Option.some.inj same).symm
  advance := by
    intro store trace id call answer inv holding _
    cases call with
    | looking request =>
      simp only [resolveService]
      split
      next result kept =>
        refine ⟨inv.concat ⟨request, holding, .inr ⟨result, rfl, ?_⟩⟩, by rintro _ ⟨⟩⟩
        obtain ⟨entry, cached, _, rfl⟩ := CustomDomainCache.kept?_eq_some kept
        obtain ⟨past, other, earlier, before, answered, same, _⟩ := inv.entries _ entry cached
        exact ⟨past, other, earlier, before, answered, same, by omega⟩
      · refine ⟨inv.concat trivial, ?_⟩
        rintro _ ⟨⟩
        exact Serves.concat holding (by rintro ⟨⟩)
    | asking request =>
      cases answer with
      | none =>
        refine ⟨inv.concat ⟨request, holding, .inl ?_⟩, by rintro _ ⟨⟩⟩
        exact ⟨trace, _, [], rfl, holding, by simp⟩
      | some =>
        refine ⟨inv.concat trivial, ?_⟩
        rintro _ ⟨⟩
        exact ⟨Serves.concat holding (by rintro ⟨⟩), trace, _, [], rfl, holding, by simp⟩
    | keeping request result =>
      have sourced : Sourced resolver trace (.stepped id (.keeping request result) answer
          (.returns (some result))) := ⟨request, holding.1, .inl (holding.2.concat (by rintro ⟨⟩))⟩
      have kept := inv.concat sourced
      refine ⟨⟨fun other => ?_, fun name entry cached => ?_, kept.sourced⟩, by rintro _ ⟨⟩⟩
      · exact (CustomDomainCache.keep_ttl ..).trans (inv.ttl other)
      · rcases CustomDomainCache.keep_cache cached with old | ⟨same, rfl, expires⟩
        · exact kept.entries name entry old
        · rw [inv.ttl] at expires
          exact ⟨trace, id, request, List.prefix_append _ _, holding.2, same, expires⟩
  advance_other other _ _ _ holding := holding.concat (by rintro ⟨⟩)

variable [DecidableEq Id]

/-- Each reply of the cache is what the control plane answered to that call, or, without an error,
to an earlier one for the same name that started less than the time to live before. -/
theorem resolution_fresh (hitTTL missTTL : Int)
    {state : State Id CustomDomainCache ResolveRequest ResolveCall
      (Option CustomDomainResolution) (Option CustomDomainResolution)}
    (reached : Reaches resolveService.step
      { store := newCachedCustomDomainResolver hitTTL missTTL } state) :
    Justified (Sourced (newCachedCustomDomainResolver hitTTL missTTL)) state.trace := by
  have start : CacheInv (newCachedCustomDomainResolver hitTTL missTTL)
      (newCachedCustomDomainResolver hitTTL missTTL) ([] : List (ResolveEvent Id)) :=
    ⟨fun _ => rfl, by rintro _ _ ⟨⟩, Justified.nil⟩
  exact ((cache_rely _).reached ⟨start, by rintro _ _ ⟨⟩⟩ reached).1.sourced

/-- Two calls for `shop.example`, one second apart: the second one is served from the
cache. -/
theorem resolution_fresh_shop : ∃ state : State Bool CustomDomainCache ResolveRequest ResolveCall
        (Option CustomDomainResolution) (Option CustomDomainResolution),
      Reaches resolveService.step { store := newCachedCustomDomainResolver 30 5 } state ∧
      state.trace.length = 6 ∧
      Justified (Sourced (newCachedCustomDomainResolver 30 5)) state.trace := by
  have ran : ∃ state : State Bool CustomDomainCache ResolveRequest ResolveCall
        (Option CustomDomainResolution) (Option CustomDomainResolution),
      exec resolveService.step { store := newCachedCustomDomainResolver 30 5 }
      [.start true ⟨ascii "shop.example", 1⟩, .advance true none,
        .advance true (some { found := true }), .advance true none,
        .start false ⟨ascii "shop.example", 2⟩, .advance false none] = some state ∧
      state.trace.length = 6 := ⟨_, rfl, rfl⟩
  obtain ⟨state, ran, length⟩ := ran
  exact ⟨state, ⟨_, ran⟩, length, resolution_fresh 30 5 ⟨_, ran⟩⟩

end Runs

end Porthook.Gateway
