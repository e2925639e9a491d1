import KafkaTopology.Plan
/-!
# Stored form of run summaries
-/
namespace KafkaTopology.RunSummary

def schema : Schema RunSummary where
  name := "RunSummary"
  blank := .start false
  fields := [
    .mandatory "dry_run" Decoder.bool fun v s => { s with dryRun := v },
    .mandatory "previewed" Decoder.count fun v s => { s with previewed := v },
    .mandatory "applied" Decoder.count fun v s => { s with applied := v },
    .mandatory "created" Decoder.count fun v s => { s with created := v },
    .mandatory "removed" Decoder.count fun v s => { s with removed := v }]

def toDocument (s : RunSummary) : Document :=
  .mapping [
    ("dry_run", .bool s.dryRun),
    ("previewed", .integer s.previewed),
    ("applied", .integer s.applied),
    ("created", .integer s.created),
    ("removed", .integer s.removed)]

end KafkaTopology.RunSummary
