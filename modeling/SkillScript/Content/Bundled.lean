import SkillScript.Content.Load
/-!
# Bundled content

The content that is used where no folder is given: three skills with their scripts,
and the default settings written out.
-/
set_option autoImplicit false
namespace SkillScript
namespace Bundled

def text (lines : List String) : String :=
  String.join (lines.map (· ++ "\n"))

def settings : String := text [
  "# Runtime tuning shared by every agent.",
  "",
  "# Delta time used to run exit behaviors to completion.",
  "exit_dt = 1000000.0",
  "",
  "# Durations and intervals within this many seconds of zero count as elapsed.",
  "time_epsilon = 0.0001",
  "",
  "# Buffered events per event name on the bus.",
  "event_capacity = 64"]

def skills : String := text [
  "(",
  "    skills: [",
  "        (",
  "            id: 1,",
  "            name: \"Fireball\",",
  "            script: \"fireball\",",
  "            cooldown: 4.0,",
  "            range: Some(8.0),",
  "            min_health: 1,",
  "        ),",
  "        (",
  "            id: 2,",
  "            name: \"Mend\",",
  "            script: \"mend\",",
  "            cooldown: 6.0,",
  "            interruptible: true,",
  "        ),",
  "        (",
  "            id: 3,",
  "            name: \"Barrier\",",
  "            script: \"barrier\",",
  "            cooldown: 10.0,",
  "            health_cost: 15,",
  "            lock_movement: true,",
  "            unstoppable: true,",
  "        ),",
  "    ],",
  ")"]

def barrier : String := text [
  "// Raise a barrier and hold still until it fades.",
  "(",
  "    tag: \"SequenceBhv\",",
  "    children: [",
  "        (tag: \"SpawnOwnedBhv\", attrs: [(\"Kind\", \"barrier\")]),",
  "        (tag: \"FiniteTimeBhv\", attrs: [(\"Duration\", \"3\")]),",
  "    ],",
  ")"]

def fireball : String := text [
  "// Wind up, launch a projectile, hit the target, then recover.",
  "(",
  "    tag: \"Fsm\",",
  "    attrs: [(\"Initial\", \"idle\")],",
  "    children: [",
  "        (tag: \"CustomBhvState\", attrs: [(\"Id\", \"idle\")], children: [",
  "            (tag: \"StateTransition\", attrs: [(\"TrueStateID\", \"cast\")], children: [",
  "                (tag: \"Condition\", children: [",
  "                    (tag: \"TriggerCond\", attrs: [(\"Tag\", \"OnReleaseSkill\")]),",
  "                ]),",
  "            ]),",
  "        ]),",
  "        (tag: \"CustomBhvState\", attrs: [(\"Id\", \"cast\")], children: [",
  "            (tag: \"Bhv\", children: [",
  "                (tag: \"SequenceBhv\", children: [",
  "                    (tag: \"FiniteTimeBhv\", attrs: [(\"Duration\", \"0.6\")]),",
  "                    (tag: \"SpawnOwnedBhv\", attrs: [(\"Kind\", \"fireball\"), (\"StoreAs\", \"projectile\")]),",
  "                    (tag: \"FiniteTimeBhv\", attrs: [(\"Duration\", \"0.4\")]),",
  "                    (tag: \"ModifyHealthBhv\", attrs: [(\"Target\", \"BB#target\"), (\"Amount\", \"-25\")]),",
  "                ]),",
  "            ]),",
  "            (tag: \"ExitBhv\", children: [",
  "                (tag: \"PublishEventBhv\", attrs: [(\"Event\", \"FireballImpact\"), (\"Vars\", \"target\")]),",
  "            ]),",
  "            (tag: \"StateTransition\", attrs: [(\"TrueStateID\", \"recover\")], children: [",
  "                (tag: \"Condition\", children: [(tag: \"ConstCond\", attrs: [(\"Value\", \"true\")])]),",
  "            ]),",
  "        ]),",
  "        (tag: \"CustomBhvState\", attrs: [(\"Id\", \"recover\"), (\"EndEvent\", \"FireballDone\")], children: [",
  "            (tag: \"Bhv\", children: [(tag: \"FiniteTimeBhv\", attrs: [(\"Duration\", \"0.3\")])]),",
  "        ]),",
  "    ],",
  ")"]

def mend : String := text [
  "// Heal the caster over two seconds.",
  "(",
  "    tag: \"SequenceBhv\",",
  "    children: [",
  "        (tag: \"HealthOverTimeBhv\", attrs: [(\"Duration\", \"2\"), (\"PerSecond\", \"5\")]),",
  "        (tag: \"PublishEventBhv\", attrs: [(\"Event\", \"MendDone\")]),",
  "    ],",
  ")"]

def file (text : String) : FileTree :=
  .file text.toUTF8

def tree : FileTree :=
  .folder [
    ("settings.toml", file settings),
    ("skills.ron", file skills),
    ("scripts", .folder [
      ("barrier.ron", file barrier),
      ("fireball.ron", file fireball),
      ("mend.ron", file mend)])]

end Bundled
end SkillScript
