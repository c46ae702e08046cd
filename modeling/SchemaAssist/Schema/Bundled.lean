/-
  The schema that comes with the library: companies, domains, nodes and relationships.
-/
namespace SchemaAssist.Schema

/-- The lines of the bundled metadata document. -/
def bundledLines : List String := [
  "spec:",
  "  properties:",
  "    Company:",
  "      type: string",
  "      description: Name of the company that owns the architecture.",
  "    Domain:",
  "      type: object",
  "      description: Business domain the architecture belongs to.",
  "      properties:",
  "        Name:",
  "          type: string",
  "          description: Short name of the domain.",
  "        Description:",
  "          type: string",
  "          description: What the domain is responsible for.",
  "        Owner:",
  "          type: string",
  "          description: Team or person accountable for the domain.",
  "        Criticality:",
  "          type: string",
  "          description: Business criticality of the domain.",
  "          enum: [Low, Medium, High, Critical]",
  "    Nodes:",
  "      type: array",
  "      description: Components of the architecture, each keyed by its identifier.",
  "      items:",
  "        type: object",
  "        properties:",
  "          Type:",
  "            type: string",
  "            description: Kind of component.",
  "            enum: [Service, Database, Queue, Cache, Gateway, External]",
  "          Technology:",
  "            type: string",
  "            description: Main technology the component is built with.",
  "          Description:",
  "            type: string",
  "            description: What the component does.",
  "          Owner:",
  "            type: string",
  "            description: Team responsible for the component.",
  "    Relationships:",
  "      type: array",
  "      description: Connections between nodes.",
  "      items:",
  "        type: object",
  "        properties:",
  "          Start:",
  "            type: string",
  "            description: Identifier of the node the relationship starts from.",
  "          End:",
  "            type: string",
  "            description: Identifier of the node the relationship points to.",
  "          Type:",
  "            type: string",
  "            description: Communication style.",
  "            enum: [Sync, Async]",
  "          Protocol:",
  "            type: string",
  "            description: Protocol used on the connection.",
  "            enum: [HTTP, gRPC, AMQP, Kafka, SQL]",
  "          Description:",
  "            type: string",
  "            description: Purpose of the relationship."]

def bundledText : String := String.join (bundledLines.map (· ++ "\n"))

end SchemaAssist.Schema
