import TenantStore.Json.Fields

namespace TenantStore

/-!
# Access policies

A policy is an ordered list of rules, each of which lets or forbids traffic
between groups. Rules of older records may lack a protocol, a direction or the
name of their policy; `Policy.upgrade` supplies them.
-/

/-- What happens to matching traffic. -/
inductive TrafficAction where
  | accept
  | drop
  deriving Repr, DecidableEq

namespace TrafficAction

/-- The name of an action in files and in the database. -/
def name : TrafficAction → String
  | .accept => "accept"
  | .drop => "drop"

/-- The actions under their names. -/
def named : List (String × TrafficAction) :=
  [("accept", .accept), ("drop", .drop)]

/-- The action of a name; an unknown name accepts. -/
def ofName (name : String) : TrafficAction :=
  (named.lookup name).getD .accept

end TrafficAction

/-- The protocol that a rule matches; `unset` stands in older records only. -/
inductive RuleProtocol where
  | unset
  | all
  | tcp
  | udp
  | icmp
  deriving Repr, DecidableEq

namespace RuleProtocol

/-- The name of a protocol in files and in the database; no protocol has the empty one. -/
def name : RuleProtocol → String
  | .unset => ""
  | .all => "all"
  | .tcp => "tcp"
  | .udp => "udp"
  | .icmp => "icmp"

/-- The protocols under their names. -/
def named : List (String × RuleProtocol) :=
  [("", .unset), ("all", .all), ("tcp", .tcp), ("udp", .udp), ("icmp", .icmp)]

/-- The protocol of a name; an unknown name is no protocol yet. -/
def ofName (name : String) : RuleProtocol :=
  (named.lookup name).getD .unset

end RuleProtocol

/-- A rule between source and destination groups. -/
structure PolicyRule where
  id : String := ""
  policyId : String := ""
  name : String := ""
  description : String := ""
  enabled : Bool := false
  action : TrafficAction := .accept
  destinations : List String := []
  sources : List String := []
  bidirectional : Bool := false
  protocol : RuleProtocol := .unset
  ports : List String := []
  deriving Repr, DecidableEq

/-- An ordered list of rules. -/
structure Policy where
  id : String := ""
  name : String := ""
  description : String := ""
  enabled : Bool := false
  rules : List PolicyRule := []
  deriving Repr, DecidableEq

namespace PolicyRule

/-- The protocol of a rule once it is brought up to date. -/
def currentProtocol (rule : PolicyRule) : RuleProtocol :=
  if rule.protocol = .unset then .all else rule.protocol

/-- Whether bringing the rule up to date touches it. -/
def isOutdated (rule : PolicyRule) : Bool :=
  rule.protocol = .unset
    || (rule.currentProtocol = .all && !rule.bidirectional)
    || rule.policyId.isEmpty

/-- The rule with protocol, direction and policy supplied where they lack. -/
def upgrade (policyId : String) (rule : PolicyRule) : PolicyRule :=
  { rule with
    protocol := rule.currentProtocol
    bidirectional := rule.bidirectional || rule.currentProtocol = .all
    policyId := if rule.policyId.isEmpty then policyId else rule.policyId }

/-- The fields in the order of declaration. -/
def fieldNames : List String :=
  ["id", "policy_id", "name", "description", "enabled", "action",
    "destinations", "sources", "bidirectional", "protocol", "ports"]

/-- A rule with action and protocol under their names. -/
def toJson (rule : PolicyRule) : Json :=
  .record [
    ("id", .text rule.id),
    ("policy_id", .text rule.policyId),
    ("name", .text rule.name),
    ("description", .text rule.description),
    ("enabled", .bool rule.enabled),
    ("action", .text rule.action.name),
    ("destinations", .texts rule.destinations),
    ("sources", .texts rule.sources),
    ("bidirectional", .bool rule.bidirectional),
    ("protocol", .text rule.protocol.name),
    ("ports", .texts rule.ports)
  ]

/-- The rule that a document spells. An action or a protocol of an unknown name is refused here. -/
def ofJson? (json : Json) : Option PolicyRule := do
  let fields ← json.fields? fieldNames
  some {
    id := ← fields.get "id" Json.text? ""
    policyId := ← fields.get "policy_id" Json.text? ""
    name := ← fields.get "name" Json.text? ""
    description := ← fields.get "description" Json.text? ""
    enabled := ← fields.get "enabled" Json.bool? false
    action := ← fields.get "action" (Json.variant? TrafficAction.named) .accept
    destinations := ← fields.get "destinations" Json.texts? []
    sources := ← fields.get "sources" Json.texts? []
    bidirectional := ← fields.get "bidirectional" Json.bool? false
    protocol := ← fields.get "protocol" (Json.variant? RuleProtocol.named) .unset
    ports := ← fields.get "ports" Json.texts? []
  }

end PolicyRule

namespace Policy

/-- Whether bringing the policy up to date touches a rule. -/
def isOutdated (policy : Policy) : Bool :=
  policy.rules.any PolicyRule.isOutdated

/-- The policy with every rule brought up to date. -/
def upgrade (policy : Policy) : Policy :=
  { policy with rules := policy.rules.map (PolicyRule.upgrade policy.id) }

/-- Add a text to a list in ascending order, once. -/
def addGroup (group : String) : List String → List String
  | [] => [group]
  | head :: rest =>
      if group < head then
        group :: head :: rest
      else if group = head then
        head :: rest
      else
        head :: addGroup group rest

/-- The groups that some rule names, in ascending order, each once. -/
def ruleGroups (policy : Policy) : List String :=
  (policy.rules.flatMap (fun rule => rule.sources ++ rule.destinations)).foldr
    addGroup []

/-- The fields in the order of declaration. -/
def fieldNames : List String :=
  ["id", "name", "description", "enabled", "rules"]

/-- A policy with its rules in order. -/
def toJson (policy : Policy) : Json :=
  .record [
    ("id", .text policy.id),
    ("name", .text policy.name),
    ("description", .text policy.description),
    ("enabled", .bool policy.enabled),
    ("rules", .array (policy.rules.map PolicyRule.toJson))
  ]

/-- The policy that a document spells. -/
def ofJson? (json : Json) : Option Policy := do
  let fields ← json.fields? fieldNames
  some {
    id := ← fields.get "id" Json.text? ""
    name := ← fields.get "name" Json.text? ""
    description := ← fields.get "description" Json.text? ""
    enabled := ← fields.get "enabled" Json.bool? false
    rules := ← fields.get "rules" (Json.list? PolicyRule.ofJson?) []
  }

end Policy

end TenantStore
