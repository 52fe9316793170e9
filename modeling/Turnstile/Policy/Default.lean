/-
# The built-in policies

The table that is in force when no other is configured.  Routes of the same kind share one
of a few quota shapes.
-/
import Turnstile.Policy.Basic

namespace Turnstile

namespace Quota

/-- So many requests a second. -/
def perSecond (n : Nat) : Window := ⟨n, 1⟩

/-- So many requests a minute. -/
def perMinute (n : Nat) : Window := ⟨n, 60⟩

/-- So many requests an hour. -/
def perHour (n : Nat) : Window := ⟨n, 3600⟩

/-- Listing a collection. -/
def list : List Window := [perSecond 10, perMinute 200]

/-- Reading one record. -/
def read : List Window := [perSecond 20, perMinute 400]

/-- Creating a record. -/
def create : List Window := [perMinute 10, perHour 100]

/-- Changing a record. -/
def update : List Window := [perMinute 20, perHour 200]

/-- Deleting a record. -/
def delete : List Window := [perMinute 10, perHour 50]

/-- Changing an account. -/
def account : List Window := [perMinute 10, perHour 100]

end Quota

open Quota in
/-- The built-in policies, in table order. -/
def defaultPolicies : List Policy :=
  [⟨"GET", "/", .ip, [perMinute 60]⟩,
   ⟨"GET", "/health", .ip, [perMinute 60]⟩,
   ⟨"POST", "/api/v1/token", .ip, [perMinute 5, perHour 100]⟩,
   ⟨"GET", "/api/v1/users", .user, Quota.list⟩,
   ⟨"GET", "/api/v1/user/\x7bkey\x7d", .user, Quota.read⟩,
   ⟨"POST", "/api/v1/users", .ip, [perMinute 5, perHour 50]⟩,
   ⟨"PUT", "/api/v1/user/\x7bkey\x7d", .user, account⟩,
   ⟨"PATCH", "/api/v1/user/\x7bkey\x7d", .user, account⟩,
   ⟨"PUT", "/api/v1/user/\x7bkey\x7d/password", .user, account⟩,
   ⟨"DELETE", "/api/v1/user/\x7bkey\x7d", .user, delete⟩,
   ⟨"GET", "/api/v1/todos", .user, Quota.list⟩,
   ⟨"GET", "/api/v1/todo/\x7bkey\x7d", .user, Quota.read⟩,
   ⟨"POST", "/api/v1/todos", .user, create⟩,
   ⟨"PUT", "/api/v1/todo/\x7bkey\x7d", .user, update⟩,
   ⟨"PATCH", "/api/v1/todo/\x7bkey\x7d", .user, update⟩,
   ⟨"DELETE", "/api/v1/todo/\x7bkey\x7d", .user, delete⟩,
   ⟨"GET", "/api/v1/priorities", .user, Quota.list⟩,
   ⟨"GET", "/api/v1/priority/\x7bkey\x7d", .user, Quota.read⟩,
   ⟨"POST", "/api/v1/priorities", .user, create⟩,
   ⟨"PUT", "/api/v1/priority/\x7bkey\x7d", .user, update⟩,
   ⟨"PATCH", "/api/v1/priority/\x7bkey\x7d", .user, update⟩,
   ⟨"PATCH", "/api/v1/priority/\x7bkey\x7d/reorder", .user, update⟩,
   ⟨"DELETE", "/api/v1/priority/\x7bkey\x7d", .user, delete⟩,
   ⟨"GET", "/api/v1/statuses", .user, Quota.list⟩,
   ⟨"GET", "/api/v1/status/\x7bkey\x7d", .user, Quota.read⟩,
   ⟨"POST", "/api/v1/statuses", .user, create⟩,
   ⟨"PUT", "/api/v1/status/\x7bkey\x7d", .user, update⟩,
   ⟨"PATCH", "/api/v1/status/\x7bkey\x7d", .user, update⟩,
   ⟨"PATCH", "/api/v1/status/\x7bkey\x7d/reorder", .user, update⟩,
   ⟨"DELETE", "/api/v1/status/\x7bkey\x7d", .user, delete⟩]

end Turnstile
