import Inflection.Storage

/-!
# The rules for French

The rule file that comes with the program.  The regular verbs are conjugated by
fallbacks, and the irregular ones have entries of their own.
-/

namespace Inflection

/-- The rule file for French. -/
def frenchRules : String := r#"<?xml version="1.0" encoding="UTF-8"?>
<!-- French conjugation rules. -->
<verbs>
  <meta>
    <forms>
      <form>prs</form>
      <form>pcomp</form>
      <form>imp</form>
      <form>plu</form>
      <form>futsimp</form>
      <form>futant</form>
      <form>passimp</form>
      <form>pstant</form>
      <form>subprs</form>
      <form>subpst</form>
      <form>subimp</form>
      <form>subplu</form>
      <form>cprs</form>
      <form>cpst</form>
      <form>cpst2</form>
      <form>impprs</form>
      <form>imppst</form>
    </forms>
    <paradigms>
      <paradigm person="1" quant="sg"/>
      <paradigm person="2" quant="sg"/>
      <paradigm person="3" quant="sg"/>
      <paradigm person="1" quant="pl"/>
      <paradigm person="2" quant="pl"/>
      <paradigm person="3" quant="pl"/>
    </paradigms>
    <fallbacks>
      <fallback regex="er$" ref="er"/>
      <fallback regex="ir$" ref="ir"/>
    </fallbacks>
  </meta>

  <!-- Endings and auxiliaries shared by every verb. -->
  <verbset id="base">
    <group id="imp">
      <pdgmgroup id="1">
        <paradigm id="sg"><append>ais</append></paradigm>
        <paradigm id="pl"><append>ions</append></paradigm>
      </pdgmgroup>
      <pdgmgroup id="2">
        <paradigm id="sg"><append>ais</append></paradigm>
        <paradigm id="pl"><append>iez</append></paradigm>
      </pdgmgroup>
      <pdgmgroup id="3">
        <paradigm id="sg"><append>ait</append></paradigm>
        <paradigm id="pl"><append>aient</append></paradigm>
      </pdgmgroup>
    </group>
    <group id="futsimp">
      <pdgmgroup id="1">
        <paradigm id="sg"><append>ai</append></paradigm>
        <paradigm id="pl"><append>ons</append></paradigm>
      </pdgmgroup>
      <pdgmgroup id="2">
        <paradigm id="sg"><append>as</append></paradigm>
        <paradigm id="pl"><append>ez</append></paradigm>
      </pdgmgroup>
      <pdgmgroup id="3">
        <paradigm id="sg"><append>a</append></paradigm>
        <paradigm id="pl"><append>ont</append></paradigm>
      </pdgmgroup>
    </group>
    <group id="cprs">
      <pdgmgroup id="1">
        <paradigm id="sg"><append>ais</append></paradigm>
        <paradigm id="pl"><append>ions</append></paradigm>
      </pdgmgroup>
      <pdgmgroup id="2">
        <paradigm id="sg"><append>ais</append></paradigm>
        <paradigm id="pl"><append>iez</append></paradigm>
      </pdgmgroup>
      <pdgmgroup id="3">
        <paradigm id="sg"><append>ait</append></paradigm>
        <paradigm id="pl"><append>aient</append></paradigm>
      </pdgmgroup>
    </group>
    <group id="pcomp">
      <pdgmgroup id="1">
        <paradigm id="sg"><prepend>ai </prepend></paradigm>
        <paradigm id="pl"><prepend>avons </prepend></paradigm>
      </pdgmgroup>
      <pdgmgroup id="2">
        <paradigm id="sg"><prepend>as </prepend></paradigm>
        <paradigm id="pl"><prepend>avez </prepend></paradigm>
      </pdgmgroup>
      <pdgmgroup id="3">
        <paradigm id="sg"><prepend>a </prepend></paradigm>
        <paradigm id="pl"><prepend>ont </prepend></paradigm>
      </pdgmgroup>
    </group>
    <group id="plu">
      <pdgmgroup id="1">
        <paradigm id="sg"><prepend>avais </prepend></paradigm>
        <paradigm id="pl"><prepend>avions </prepend></paradigm>
      </pdgmgroup>
      <pdgmgroup id="2">
        <paradigm id="sg"><prepend>avais </prepend></paradigm>
        <paradigm id="pl"><prepend>aviez </prepend></paradigm>
      </pdgmgroup>
      <pdgmgroup id="3">
        <paradigm id="sg"><prepend>avait </prepend></paradigm>
        <paradigm id="pl"><prepend>avaient </prepend></paradigm>
      </pdgmgroup>
    </group>
    <group id="futant">
      <pdgmgroup id="1">
        <paradigm id="sg"><prepend>aurai </prepend></paradigm>
        <paradigm id="pl"><prepend>aurons </prepend></paradigm>
      </pdgmgroup>
      <pdgmgroup id="2">
        <paradigm id="sg"><prepend>auras </prepend></paradigm>
        <paradigm id="pl"><prepend>aurez </prepend></paradigm>
      </pdgmgroup>
      <pdgmgroup id="3">
        <paradigm id="sg"><prepend>aura </prepend></paradigm>
        <paradigm id="pl"><prepend>auront </prepend></paradigm>
      </pdgmgroup>
    </group>
    <group id="pstant">
      <pdgmgroup id="1">
        <paradigm id="sg"><prepend>eus </prepend></paradigm>
        <paradigm id="pl"><prepend>eûmes </prepend></paradigm>
      </pdgmgroup>
      <pdgmgroup id="2">
        <paradigm id="sg"><prepend>eus </prepend></paradigm>
        <paradigm id="pl"><prepend>eûtes </prepend></paradigm>
      </pdgmgroup>
      <pdgmgroup id="3">
        <paradigm id="sg"><prepend>eut </prepend></paradigm>
        <paradigm id="pl"><prepend>eurent </prepend></paradigm>
      </pdgmgroup>
    </group>
    <group id="subpst">
      <pdgmgroup id="1">
        <paradigm id="sg"><prepend>aie </prepend></paradigm>
        <paradigm id="pl"><prepend>ayons </prepend></paradigm>
      </pdgmgroup>
      <pdgmgroup id="2">
        <paradigm id="sg"><prepend>aies </prepend></paradigm>
        <paradigm id="pl"><prepend>ayez </prepend></paradigm>
      </pdgmgroup>
      <pdgmgroup id="3">
        <paradigm id="sg"><prepend>ait </prepend></paradigm>
        <paradigm id="pl"><prepend>aient </prepend></paradigm>
      </pdgmgroup>
    </group>
    <group id="subplu">
      <pdgmgroup id="1">
        <paradigm id="sg"><prepend>eusse </prepend></paradigm>
        <paradigm id="pl"><prepend>eussions </prepend></paradigm>
      </pdgmgroup>
      <pdgmgroup id="2">
        <paradigm id="sg"><prepend>eusses </prepend></paradigm>
        <paradigm id="pl"><prepend>eussiez </prepend></paradigm>
      </pdgmgroup>
      <pdgmgroup id="3">
        <paradigm id="sg"><prepend>eût </prepend></paradigm>
        <paradigm id="pl"><prepend>eussent </prepend></paradigm>
      </pdgmgroup>
    </group>
    <group id="cpst">
      <pdgmgroup id="1">
        <paradigm id="sg"><prepend>aurais </prepend></paradigm>
        <paradigm id="pl"><prepend>aurions </prepend></paradigm>
      </pdgmgroup>
      <pdgmgroup id="2">
        <paradigm id="sg"><prepend>aurais </prepend></paradigm>
        <paradigm id="pl"><prepend>auriez </prepend></paradigm>
      </pdgmgroup>
      <pdgmgroup id="3">
        <paradigm id="sg"><prepend>aurait </prepend></paradigm>
        <paradigm id="pl"><prepend>auraient </prepend></paradigm>
      </pdgmgroup>
    </group>
    <group id="cpst2">
      <pdgmgroup id="1">
        <paradigm id="sg"><prepend>eusse </prepend></paradigm>
        <paradigm id="pl"><prepend>eussions </prepend></paradigm>
      </pdgmgroup>
      <pdgmgroup id="2">
        <paradigm id="sg"><prepend>eusses </prepend></paradigm>
        <paradigm id="pl"><prepend>eussiez </prepend></paradigm>
      </pdgmgroup>
      <pdgmgroup id="3">
        <paradigm id="sg"><prepend>eût </prepend></paradigm>
        <paradigm id="pl"><prepend>eussent </prepend></paradigm>
      </pdgmgroup>
    </group>
    <group id="impprs">
      <pdgmgroup id="1">
        <paradigm id="sg" ignore="ignore"/>
      </pdgmgroup>
      <pdgmgroup id="3" ignore="ignore"/>
    </group>
    <group id="imppst">
      <pdgmgroup id="1">
        <paradigm id="sg" ignore="ignore"/>
        <paradigm id="pl"><prepend>ayons </prepend></paradigm>
      </pdgmgroup>
      <pdgmgroup id="2">
        <paradigm id="sg"><prepend>aie </prepend></paradigm>
        <paradigm id="pl"><prepend>ayez </prepend></paradigm>
      </pdgmgroup>
      <pdgmgroup id="3" ignore="ignore"/>
    </group>
  </verbset>

  <!-- Regular verbs ending in -er: parler, chanter, ... -->
  <verbset id="er" inherit="base">
    <group id="prs">
      <endlength>2</endlength>
      <pdgmgroup id="1">
        <paradigm id="sg"><append>e</append></paradigm>
        <paradigm id="pl"><append>ons</append></paradigm>
      </pdgmgroup>
      <pdgmgroup id="2">
        <paradigm id="sg"><append>es</append></paradigm>
        <paradigm id="pl"><append>ez</append></paradigm>
      </pdgmgroup>
      <pdgmgroup id="3">
        <paradigm id="sg"><append>e</append></paradigm>
        <paradigm id="pl"><append>ent</append></paradigm>
      </pdgmgroup>
    </group>
    <group id="pcomp">
      <endlength>2</endlength><append>é</append>
    </group>
    <group id="plu">
      <endlength>2</endlength><append>é</append>
    </group>
    <group id="futant">
      <endlength>2</endlength><append>é</append>
    </group>
    <group id="pstant">
      <endlength>2</endlength><append>é</append>
    </group>
    <group id="subpst">
      <endlength>2</endlength><append>é</append>
    </group>
    <group id="subplu">
      <endlength>2</endlength><append>é</append>
    </group>
    <group id="cpst">
      <endlength>2</endlength><append>é</append>
    </group>
    <group id="cpst2">
      <endlength>2</endlength><append>é</append>
    </group>
    <group id="imppst">
      <endlength>2</endlength><append>é</append>
    </group>
    <group id="imp">
      <endlength>2</endlength>
    </group>
    <group id="passimp">
      <endlength>2</endlength>
      <pdgmgroup id="1">
        <paradigm id="sg"><append>ai</append></paradigm>
        <paradigm id="pl"><append>âmes</append></paradigm>
      </pdgmgroup>
      <pdgmgroup id="2">
        <paradigm id="sg"><append>as</append></paradigm>
        <paradigm id="pl"><append>âtes</append></paradigm>
      </pdgmgroup>
      <pdgmgroup id="3">
        <paradigm id="sg"><append>a</append></paradigm>
        <paradigm id="pl"><append>èrent</append></paradigm>
      </pdgmgroup>
    </group>
    <group id="subprs">
      <endlength>2</endlength>
      <pdgmgroup id="1">
        <paradigm id="sg"><append>e</append></paradigm>
        <paradigm id="pl"><append>ions</append></paradigm>
      </pdgmgroup>
      <pdgmgroup id="2">
        <paradigm id="sg"><append>es</append></paradigm>
        <paradigm id="pl"><append>iez</append></paradigm>
      </pdgmgroup>
      <pdgmgroup id="3">
        <paradigm id="sg"><append>e</append></paradigm>
        <paradigm id="pl"><append>ent</append></paradigm>
      </pdgmgroup>
    </group>
    <group id="subimp">
      <endlength>2</endlength>
      <pdgmgroup id="1">
        <paradigm id="sg"><append>asse</append></paradigm>
        <paradigm id="pl"><append>assions</append></paradigm>
      </pdgmgroup>
      <pdgmgroup id="2">
        <paradigm id="sg"><append>asses</append></paradigm>
        <paradigm id="pl"><append>assiez</append></paradigm>
      </pdgmgroup>
      <pdgmgroup id="3">
        <paradigm id="sg"><append>ât</append></paradigm>
        <paradigm id="pl"><append>assent</append></paradigm>
      </pdgmgroup>
    </group>
    <group id="impprs">
      <endlength>2</endlength>
      <pdgmgroup id="1">
        <paradigm id="pl"><append>ons !</append></paradigm>
      </pdgmgroup>
      <pdgmgroup id="2">
        <paradigm id="sg"><append>e !</append></paradigm>
        <paradigm id="pl"><append>ez !</append></paradigm>
      </pdgmgroup>
    </group>
  </verbset>

  <!-- Regular verbs ending in -ir: finir, choisir, ... -->
  <verbset id="ir" inherit="base">
    <group id="prs">
      <endlength>2</endlength>
      <pdgmgroup id="1">
        <paradigm id="sg"><append>is</append></paradigm>
        <paradigm id="pl"><append>issons</append></paradigm>
      </pdgmgroup>
      <pdgmgroup id="2">
        <paradigm id="sg"><append>is</append></paradigm>
        <paradigm id="pl"><append>issez</append></paradigm>
      </pdgmgroup>
      <pdgmgroup id="3">
        <paradigm id="sg"><append>it</append></paradigm>
        <paradigm id="pl"><append>issent</append></paradigm>
      </pdgmgroup>
    </group>
    <group id="pcomp">
      <endlength>1</endlength>
    </group>
    <group id="plu">
      <endlength>1</endlength>
    </group>
    <group id="futant">
      <endlength>1</endlength>
    </group>
    <group id="pstant">
      <endlength>1</endlength>
    </group>
    <group id="subpst">
      <endlength>1</endlength>
    </group>
    <group id="subplu">
      <endlength>1</endlength>
    </group>
    <group id="cpst">
      <endlength>1</endlength>
    </group>
    <group id="cpst2">
      <endlength>1</endlength>
    </group>
    <group id="imppst">
      <endlength>1</endlength>
    </group>
    <group id="imp">
      <mod match="first" search="ir$" replace="iss"/>
    </group>
    <group id="passimp">
      <endlength>2</endlength>
      <pdgmgroup id="1">
        <paradigm id="sg"><append>is</append></paradigm>
        <paradigm id="pl"><append>îmes</append></paradigm>
      </pdgmgroup>
      <pdgmgroup id="2">
        <paradigm id="sg"><append>is</append></paradigm>
        <paradigm id="pl"><append>îtes</append></paradigm>
      </pdgmgroup>
      <pdgmgroup id="3">
        <paradigm id="sg"><append>it</append></paradigm>
        <paradigm id="pl"><append>irent</append></paradigm>
      </pdgmgroup>
    </group>
    <group id="subprs">
      <mod match="first" search="ir$" replace="iss"/>
      <pdgmgroup id="1">
        <paradigm id="sg"><append>e</append></paradigm>
        <paradigm id="pl"><append>ions</append></paradigm>
      </pdgmgroup>
      <pdgmgroup id="2">
        <paradigm id="sg"><append>es</append></paradigm>
        <paradigm id="pl"><append>iez</append></paradigm>
      </pdgmgroup>
      <pdgmgroup id="3">
        <paradigm id="sg"><append>e</append></paradigm>
        <paradigm id="pl"><append>ent</append></paradigm>
      </pdgmgroup>
    </group>
    <group id="subimp">
      <endlength>2</endlength>
      <pdgmgroup id="1">
        <paradigm id="sg"><append>isse</append></paradigm>
        <paradigm id="pl"><append>issions</append></paradigm>
      </pdgmgroup>
      <pdgmgroup id="2">
        <paradigm id="sg"><append>isses</append></paradigm>
        <paradigm id="pl"><append>issiez</append></paradigm>
      </pdgmgroup>
      <pdgmgroup id="3">
        <paradigm id="sg"><append>ît</append></paradigm>
        <paradigm id="pl"><append>issent</append></paradigm>
      </pdgmgroup>
    </group>
    <group id="impprs">
      <endlength>2</endlength>
      <pdgmgroup id="1">
        <paradigm id="pl"><append>issons !</append></paradigm>
      </pdgmgroup>
      <pdgmgroup id="2">
        <paradigm id="sg"><append>is !</append></paradigm>
        <paradigm id="pl"><append>issez !</append></paradigm>
      </pdgmgroup>
    </group>
  </verbset>

  <verb word="être" inherit="base">
    <group id="prs">
      <endlength>4</endlength>
      <pdgmgroup id="1">
        <paradigm id="sg"><append>suis</append></paradigm>
        <paradigm id="pl"><append>sommes</append></paradigm>
      </pdgmgroup>
      <pdgmgroup id="2">
        <paradigm id="sg"><append>es</append></paradigm>
        <paradigm id="pl"><append>êtes</append></paradigm>
      </pdgmgroup>
      <pdgmgroup id="3">
        <paradigm id="sg"><append>est</append></paradigm>
        <paradigm id="pl"><append>sont</append></paradigm>
      </pdgmgroup>
    </group>
    <group id="pcomp">
      <endlength>4</endlength><append>été</append>
    </group>
    <group id="plu">
      <endlength>4</endlength><append>été</append>
    </group>
    <group id="futant">
      <endlength>4</endlength><append>été</append>
    </group>
    <group id="pstant">
      <endlength>4</endlength><append>été</append>
    </group>
    <group id="subpst">
      <endlength>4</endlength><append>été</append>
    </group>
    <group id="subplu">
      <endlength>4</endlength><append>été</append>
    </group>
    <group id="cpst">
      <endlength>4</endlength><append>été</append>
    </group>
    <group id="cpst2">
      <endlength>4</endlength><append>été</append>
    </group>
    <group id="imppst">
      <endlength>4</endlength><append>été</append>
    </group>
    <group id="imp">
      <mod match="first" search="^être$" replace="ét"/>
    </group>
    <group id="futsimp">
      <mod match="first" search="^être$" replace="ser"/>
    </group>
    <group id="cprs">
      <mod match="first" search="^être$" replace="ser"/>
    </group>
    <group id="passimp">
      <mod match="first" search="^être$" replace="f"/>
      <pdgmgroup id="1">
        <paradigm id="sg"><append>us</append></paradigm>
        <paradigm id="pl"><append>ûmes</append></paradigm>
      </pdgmgroup>
      <pdgmgroup id="2">
        <paradigm id="sg"><append>us</append></paradigm>
        <paradigm id="pl"><append>ûtes</append></paradigm>
      </pdgmgroup>
      <pdgmgroup id="3">
        <paradigm id="sg"><append>ut</append></paradigm>
        <paradigm id="pl"><append>urent</append></paradigm>
      </pdgmgroup>
    </group>
    <group id="subprs">
      <mod match="first" search="^être$" replace="so"/>
      <pdgmgroup id="1">
        <paradigm id="sg"><append>is</append></paradigm>
        <paradigm id="pl"><append>yons</append></paradigm>
      </pdgmgroup>
      <pdgmgroup id="2">
        <paradigm id="sg"><append>is</append></paradigm>
        <paradigm id="pl"><append>yez</append></paradigm>
      </pdgmgroup>
      <pdgmgroup id="3">
        <paradigm id="sg"><append>it</append></paradigm>
        <paradigm id="pl"><append>ient</append></paradigm>
      </pdgmgroup>
    </group>
    <group id="subimp">
      <mod match="first" search="^être$" replace="f"/>
      <pdgmgroup id="1">
        <paradigm id="sg"><append>usse</append></paradigm>
        <paradigm id="pl"><append>ussions</append></paradigm>
      </pdgmgroup>
      <pdgmgroup id="2">
        <paradigm id="sg"><append>usses</append></paradigm>
        <paradigm id="pl"><append>ussiez</append></paradigm>
      </pdgmgroup>
      <pdgmgroup id="3">
        <paradigm id="sg"><append>ût</append></paradigm>
        <paradigm id="pl"><append>ussent</append></paradigm>
      </pdgmgroup>
    </group>
    <group id="impprs">
      <endlength>4</endlength>
      <pdgmgroup id="1">
        <paradigm id="pl"><append>soyons !</append></paradigm>
      </pdgmgroup>
      <pdgmgroup id="2">
        <paradigm id="sg"><append>sois !</append></paradigm>
        <paradigm id="pl"><append>soyez !</append></paradigm>
      </pdgmgroup>
    </group>
  </verb>

  <!-- The g keeps its soft sound before a and o. -->
  <verb word="manger" inherit="er">
    <group id="prs">
      <endlength>2</endlength>
      <pdgmgroup id="1">
        <paradigm id="pl"><append>eons</append></paradigm>
      </pdgmgroup>
    </group>
    <group id="imp">
      <endlength>2</endlength>
      <pdgmgroup id="1">
        <paradigm id="sg"><append>eais</append></paradigm>
      </pdgmgroup>
      <pdgmgroup id="2">
        <paradigm id="sg"><append>eais</append></paradigm>
      </pdgmgroup>
      <pdgmgroup id="3">
        <paradigm id="sg"><append>eait</append></paradigm>
        <paradigm id="pl"><append>eaient</append></paradigm>
      </pdgmgroup>
    </group>
    <group id="passimp">
      <endlength>2</endlength>
      <pdgmgroup id="1">
        <paradigm id="sg"><append>eai</append></paradigm>
        <paradigm id="pl"><append>eâmes</append></paradigm>
      </pdgmgroup>
      <pdgmgroup id="2">
        <paradigm id="sg"><append>eas</append></paradigm>
        <paradigm id="pl"><append>eâtes</append></paradigm>
      </pdgmgroup>
      <pdgmgroup id="3">
        <paradigm id="sg"><append>ea</append></paradigm>
      </pdgmgroup>
    </group>
    <group id="subimp">
      <endlength>2</endlength>
      <pdgmgroup id="1">
        <paradigm id="sg"><append>easse</append></paradigm>
        <paradigm id="pl"><append>eassions</append></paradigm>
      </pdgmgroup>
      <pdgmgroup id="2">
        <paradigm id="sg"><append>easses</append></paradigm>
        <paradigm id="pl"><append>eassiez</append></paradigm>
      </pdgmgroup>
      <pdgmgroup id="3">
        <paradigm id="sg"><append>eât</append></paradigm>
        <paradigm id="pl"><append>eassent</append></paradigm>
      </pdgmgroup>
    </group>
    <group id="impprs">
      <endlength>2</endlength>
      <pdgmgroup id="1">
        <paradigm id="pl"><append>eons !</append></paradigm>
      </pdgmgroup>
    </group>
  </verb>
</verbs>
"#

/-- The directory of the rules that come with the program, under a
name of its own. -/
def bundledRules (directory : String) : FileTree :=
  ⟨[([directory, "fr.xml"], frenchRules.toUTF8)]⟩

end Inflection
